/-
Loading samples from tables.

* `Table.Layout.sample?`, `Table.Layout.samplesIn` — the sample in a row, and those in all rows;
* `Table.Loads` — samples are loaded in order of time if no time comes up twice, and otherwise the
  least such time is the fault;
* `Table.loads_ordered?` — sorting and looking at neighbours does this;
* `Table.Loads.eq_of_perm` — it leaves no choice, so that the order of the rows does not matter;
* `Table.Layout.loads_rows` — so it is for tables whose bad rows are left out, and for tables
  without bad rows; the first bad row of another table is its fault.

Rows are taken as they come out of decoding, some of them with what kept them from being text.
-/
import Mathlib.Data.List.Duplicate
import Mathlib.Order.Bounds.Defs
import TimeBuckets.Proofs.Feed
import TimeBuckets.Table.Samples

namespace TimeBuckets.Table

variable {samples : List Sample}

/-! ### Sorted samples -/

/-- Samples are loaded.  If their times are all different, the feed has each of them once, in order
of time.  Otherwise the least time that comes up twice is the fault. -/
structure Loads (samples : List Sample) (result : Except SourceFault Feed) : Prop where
  distinct (h : (samples.map Sample.time).Nodup) :
    ∃ sorted, sorted.Perm samples ∧ Increasing sorted ∧ result = .ok (.ofSamples sorted)
  repeated (h : ¬ (samples.map Sample.time).Nodup) :
    ∃ t, IsLeast {t | List.Duplicate t (samples.map Sample.time)} t ∧
      result = .error (.outOfOrder t t)

/-- The times never go down. -/
def Sorted (samples : List Sample) : Prop := samples.Pairwise fun a b => a.time ≤ b.time

theorem sorted_mergeSort (samples : List Sample) :
    Sorted (samples.mergeSort fun a b => a.time ≤ b.time) := by
  have hsorted : (samples.mergeSort fun a b => a.time ≤ b.time).Pairwise
      fun a b => decide (a.time ≤ b.time) = true := by
    refine List.pairwise_mergeSort (fun a b c hab hbc => ?_) (fun a b => ?_) samples
    · rw [decide_eq_true_eq] at hab hbc ⊢
      exact Int64.le_trans hab hbc
    · rw [Bool.or_eq_true, decide_eq_true_eq, decide_eq_true_eq]
      exact Int64.le_total a.time b.time
  exact hsorted.imp of_decide_eq_true

/-- Neighbours with the same time are found at the least time that comes up twice. -/
theorem isLeast_of_firstDisorder? {next previous : Word}
    (h : firstDisorder? samples = some (next, previous)) (hs : Sorted samples) :
    next = previous ∧ IsLeast {t | List.Duplicate t (samples.map Sample.time)} next := by
  induction samples with
  | nil => cases h
  | cons a rest ih =>
    rcases rest with _ | ⟨b, rest⟩
    · cases h
    · obtain ⟨hhead, hrest⟩ := List.pairwise_cons.mp hs
      rw [firstDisorder?] at h
      split at h
      · rename_i hle
        obtain ⟨rfl, rfl⟩ := Prod.mk.inj (Option.some.inj h)
        have heq : b.time = a.time := Int64.le_antisymm hle (hhead b (.head _))
        refine ⟨heq, ?_, fun t ht => ?_⟩
        · show List.Duplicate b.time (a.time :: b.time :: rest.map Sample.time)
          rw [heq]
          exact .cons_mem (.head _)
        · obtain ⟨s, hmem, rfl⟩ := List.mem_map.mp (List.Duplicate.mem ht)
          rw [heq]
          rcases List.mem_cons.mp hmem with rfl | hmem
          · exact Int64.le_refl _
          · exact hhead s hmem
      · rename_i hlt
        have hab : a.time < b.time := Int64.not_le.mp hlt
        obtain ⟨heq, hmem, hleast⟩ := ih h hrest
        refine ⟨heq, .duplicate_cons hmem a.time, fun t ht => ?_⟩
        rcases List.duplicate_cons_iff.mp ht with ⟨rfl, hagain⟩ | ht
        -- the first time cannot come up again, since all later ones are greater
        · obtain ⟨s, hmem, heq⟩ := List.mem_map.mp hagain
          have hlater : b.time ≤ s.time := by
            rcases List.mem_cons.mp hmem with rfl | hmem
            · exact Int64.le_refl _
            · exact (List.pairwise_cons.mp hrest).1 s hmem
          exact absurd (Int64.lt_of_lt_of_le hab hlater) (heq ▸ Int64.lt_irrefl)
        · exact hleast ht

theorem nodup_of_increasing (h : Increasing samples) : (samples.map Sample.time).Nodup :=
  List.pairwise_map.mpr (h.imp fun hlt => Int64.ne_of_lt hlt)

theorem duplicate_iff_of_perm {ts us : List Word} (h : ts.Perm us) (t : Word) :
    List.Duplicate t ts ↔ List.Duplicate t us := by
  rw [List.duplicate_iff_two_le_count, List.duplicate_iff_two_le_count, h.count_eq]

/-- Sorting and looking at neighbours loads samples. -/
theorem loads_ordered? (samples : List Sample) :
    Loads samples (Feed.ordered? (samples.mergeSort fun a b => a.time ≤ b.time)) := by
  have hperm := List.mergeSort_perm samples fun a b => a.time ≤ b.time
  have hsorted := sorted_mergeSort samples
  have htimes := hperm.map Sample.time
  rw [Feed.ordered?]
  rcases hdisorder : firstDisorder? (samples.mergeSort fun a b => a.time ≤ b.time) with
    _ | ⟨next, previous⟩
  · have hinc := firstDisorder?_eq_none_iff.mp hdisorder
    exact ⟨fun _ => ⟨_, hperm, hinc, rfl⟩,
      fun h => absurd (htimes.nodup_iff.mp (nodup_of_increasing hinc)) h⟩
  · obtain ⟨rfl, hleast⟩ := isLeast_of_firstDisorder? hdisorder hsorted
    simp only [duplicate_iff_of_perm htimes] at hleast
    exact ⟨fun h => absurd h (List.exists_duplicate_iff_not_nodup.mp ⟨next, hleast.1⟩),
      fun _ => ⟨next, hleast, rfl⟩⟩

/-- What is loaded depends on which samples there are only. -/
theorem Loads.eq_of_perm {others : List Sample} {result other : Except SourceFault Feed}
    (h : Loads samples result) (hother : Loads others other) (hperm : samples.Perm others) :
    result = other := by
  have htimes := hperm.map Sample.time
  by_cases hnodup : (samples.map Sample.time).Nodup
  · obtain ⟨sorted, hsorted, hinc, rfl⟩ := h.distinct hnodup
    obtain ⟨sorted', hsorted', hinc', rfl⟩ := hother.distinct (htimes.nodup_iff.mp hnodup)
    have heq : sorted = sorted' := by
      refine List.Perm.eq_of_pairwise (fun a b _ _ hab hba => ?_) hinc hinc'
        ((hsorted.trans hperm).trans hsorted'.symm)
      exact absurd hab (Int64.lt_asymm hba)
    rw [heq]
  · obtain ⟨t, hleast, rfl⟩ := h.repeated hnodup
    obtain ⟨t', hleast', rfl⟩ := hother.repeated fun hn => hnodup (htimes.nodup_iff.mpr hn)
    simp only [duplicate_iff_of_perm htimes] at hleast
    rw [Int64.le_antisymm (hleast.2 hleast'.1) (hleast'.2 hleast.1)]

/-! ### Rows -/

section Outcomes

variable {ε α : Type}

theorem mapM_map_ok (as : List α) : (as.map Except.ok).mapM id = (.ok as : Except ε (List α)) := by
  rw [List.mapM_map]
  exact List.mapM_pure.trans (congrArg Except.ok (List.map_id as))

/-- The first fault is that of the whole list. -/
theorem mapM_of_error {xs : List (Except ε α)} {i : Nat} {e : ε} (h : xs[i]? = some (.error e))
    (hbefore : ∀ j < i, ∃ a, xs[j]? = some (.ok a)) : xs.mapM id = .error e := by
  induction xs generalizing i with
  | nil => cases h
  | cons x xs ih =>
    rcases i with _ | i
    · cases h
      rfl
    · obtain ⟨a, ha⟩ := hbefore 0 (Nat.zero_lt_succ i)
      cases ha
      have hrest := ih h fun j hj => hbefore (j + 1) (Nat.succ_lt_succ hj)
      rw [List.mapM_cons, hrest]
      rfl

end Outcomes

namespace Layout

variable {l : Layout} {rows : List Row}

/-- The sample in a row, if it was decoded and is one. -/
def sample? (l : Layout) (row : Row) : Option Sample :=
  row.toOption.bind fun record => (l.sampleOf record).toOption

/-- The samples in the rows, in the order of the table. -/
def samplesIn (l : Layout) (rows : List Row) : List Sample :=
  rows.filterMap l.sample?

/-- The fault of the row at an index: that of its own decoding, or the number of the row with what
keeps it from being a sample. -/
def faultAt (l : Layout) (i : Nat) (row : Row) : Option SourceFault :=
  match row with
  | .error cause => some (.undecodable cause)
  | .ok record =>
    match l.sampleOf record with
    | .ok _ => none
    | .error cause => some (.row (i + if l.header then 2 else 1) cause)

theorem toOption_sampleOfRow (number : Nat) (row : Row) :
    (l.sampleOfRow number row).toOption = l.sample? row := by
  rcases row with cause | record
  · rfl
  · rw [sampleOfRow, sample?, Except.toOption, Option.bind_some]
    rcases l.sampleOf record with cause | s
    · rfl
    · rfl

theorem sampleOfRow_of_some {row : Row} {s : Sample} {number : Nat}
    (h : l.sample? row = some s) : l.sampleOfRow number row = .ok s := by
  have hoption := (toOption_sampleOfRow number row).trans h
  rcases hsample : l.sampleOfRow number row with fault | a
  · rw [hsample] at hoption
    cases hoption
  · rw [hsample] at hoption
    cases hoption
    rfl

theorem sampleOfRow_of_none {row : Row} {i : Nat} (h : l.sample? row = none) :
    ∃ fault, l.faultAt i row = some fault ∧
      l.sampleOfRow (l.firstRow + i) row = .error fault := by
  rcases row with cause | record
  · exact ⟨_, rfl, rfl⟩
  · rw [sample?, Except.toOption, Option.bind_some] at h
    rcases hsample : l.sampleOf record with cause | a
    · refine ⟨.row (i + if l.header then 2 else 1) cause, by simp only [faultAt, hsample], ?_⟩
      simp only [sampleOfRow, hsample]
      rw [firstRow, Nat.add_comm]
    · rw [hsample] at h
      cases h

theorem filterMap_outcomes (l : Layout) (rows : List Row) :
    (l.outcomes rows).filterMap Except.toOption = l.samplesIn rows := by
  have hall : ∀ (first : Nat), (rows.mapIdx fun i row => l.sampleOfRow (first + i) row).filterMap
      Except.toOption = rows.filterMap l.sample? := by
    -- on the rows, for any number of the first one
    induction rows with
    | nil => exact fun _ => rfl
    | cons row rest ih =>
      intro first
      have hrest := ih (first + 1)
      simp only [Nat.add_assoc, Nat.add_comm 1] at hrest
      rw [List.mapIdx_cons, List.filterMap_cons, List.filterMap_cons, toOption_sampleOfRow, hrest]
  exact hall l.firstRow

theorem outcomes_getElem? {i : Nat} {row : Row} (h : rows[i]? = some row) :
    (l.outcomes rows)[i]? = some (l.sampleOfRow (l.firstRow + i) row) := by
  rw [outcomes, List.getElem?_mapIdx, h]
  rfl

theorem outcomes_of_all (hall : ∀ row ∈ rows, (l.sample? row).isSome) :
    l.outcomes rows = (l.samplesIn rows).map .ok := by
  have hnumbered : ∀ first : Nat, (rows.mapIdx fun i row => l.sampleOfRow (first + i) row)
      = (rows.filterMap l.sample?).map .ok := by
    induction rows with
    | nil => exact fun _ => rfl
    | cons row rest ih =>
      intro first
      obtain ⟨s, hs⟩ := Option.isSome_iff_exists.mp (hall row (.head _))
      have hrest := ih (fun row hrow => hall row (.tail _ hrow)) (first + 1)
      simp only [Nat.add_assoc, Nat.add_comm 1] at hrest
      rw [List.mapIdx_cons, List.filterMap_cons, hs, sampleOfRow_of_some hs, List.map_cons, hrest]
  exact hnumbered l.firstRow

/-- With bad rows left out, or without bad rows, the samples in the rows are loaded. -/
theorem samplesOf_eq (h : l.skipInvalid = true ∨ ∀ row ∈ rows, (l.sample? row).isSome) :
    l.samplesOf rows = .ok (l.samplesIn rows) := by
  rw [samplesOf]
  split
  · rw [filterMap_outcomes]
  · rename_i hskip
    rw [outcomes_of_all (h.resolve_left hskip), mapM_map_ok]

theorem loads_feedOf (h : l.skipInvalid = true ∨ ∀ row ∈ rows, (l.sample? row).isSome) :
    Loads (l.samplesIn rows) (l.feedOf rows) := by
  rw [feedOf, samplesOf_eq h]
  exact loads_ordered? (l.samplesIn rows)

/-- The first bad row is the fault of the table. -/
theorem feedOf_of_fault (hskip : l.skipInvalid = false) {i : Nat} {row : Row}
    (hrow : rows[i]? = some row) (hbad : l.sample? row = none)
    (hbefore : ∀ j < i, ∀ earlier, rows[j]? = some earlier → (l.sample? earlier).isSome) :
    ∃ fault, l.faultAt i row = some fault ∧ l.feedOf rows = .error fault := by
  obtain ⟨fault, hfault, hresult⟩ := sampleOfRow_of_none (i := i) hbad
  have houtcome := outcomes_getElem? (l := l) hrow
  rw [hresult] at houtcome
  refine ⟨fault, hfault, ?_⟩
  have hlt : i < rows.length := (List.getElem?_eq_some_iff.mp hrow).1
  have hsamples : l.samplesOf rows = .error fault := by
    rw [samplesOf, if_neg (by rw [hskip]; exact Bool.false_ne_true)]
    refine mapM_of_error houtcome fun j hj => ?_
    have hget := List.getElem?_eq_getElem (Nat.lt_trans hj hlt)
    obtain ⟨s, hs⟩ := Option.isSome_iff_exists.mp (hbefore j hj _ hget)
    exact ⟨s, (outcomes_getElem? hget).trans (congrArg some (sampleOfRow_of_some hs))⟩
  rw [feedOf, hsamples]
  rfl

/-- If bad rows are left out, the samples of the other rows are loaded, whatever the order of the
rows.  If they are not, a table without bad rows is loaded in the same way, and the fault of any
other table is that of its first bad row. -/
theorem loads_rows (l : Layout) (rows : List Row) :
    (l.skipInvalid = true → Loads (l.samplesIn rows) (l.feedOf rows) ∧
      ∀ others : List Row, others.Perm rows →
        l.feedOf others = l.feedOf rows) ∧
    (l.skipInvalid = false →
      ((∀ row ∈ rows, (l.sample? row).isSome) → Loads (l.samplesIn rows) (l.feedOf rows) ∧
        l.feedOf rows = { l with skipInvalid := true }.feedOf rows) ∧
      ∀ i row, rows[i]? = some row → l.sample? row = none →
        (∀ j < i, ∀ earlier, rows[j]? = some earlier → (l.sample? earlier).isSome) →
          ∃ fault, l.faultAt i row = some fault ∧ l.feedOf rows = .error fault) := by
  refine ⟨fun hskip => ?_, fun hskip => ⟨fun hall => ?_, fun i row => feedOf_of_fault hskip⟩⟩
  · have hloads : ∀ others, Loads (l.samplesIn others) (l.feedOf others) :=
      fun others => loads_feedOf (.inl hskip)
    exact ⟨hloads rows, fun others hperm =>
      (hloads others).eq_of_perm (hloads rows) (hperm.filterMap l.sample?)⟩
  · have hloads : Loads (l.samplesIn rows) (l.feedOf rows) := loads_feedOf (.inr hall)
    have hskipped : Loads (l.samplesIn rows) ({ l with skipInvalid := true }.feedOf rows) :=
      loads_feedOf (l := { l with skipInvalid := true }) (.inl rfl)
    exact ⟨hloads, hloads.eq_of_perm hskipped (List.Perm.refl _)⟩

/-- A bad row in the middle of three, which is left out or is the fault of line 3. -/
theorem loads_rows_of_three :
    (∃ sorted, sorted.Perm (samplesIn { skipInvalid := true }
        [.ok ["2000", "7"], .ok ["soon", "1"], .ok ["1000", "3"]]) ∧ Increasing sorted ∧
      feedOf { skipInvalid := true } [.ok ["1000", "3"], .ok ["2000", "7"], .ok ["soon", "1"]]
        = .ok (.ofSamples sorted)) ∧
    feedOf {} [.ok ["2000", "7"], .ok ["1000", "3"]]
      = feedOf { skipInvalid := true } [.ok ["2000", "7"], .ok ["1000", "3"]] ∧
    feedOf {} [.ok ["2000", "7"], .ok ["soon", "1"], .ok ["1000", "3"]]
      = .error (.row 3 (.unreadableTime "soon")) := by
  obtain ⟨hskipping, -⟩ := loads_rows { skipInvalid := true }
    [.ok ["2000", "7"], .ok ["soon", "1"], .ok ["1000", "3"]]
  obtain ⟨hloads, hpermuted⟩ := hskipping rfl
  obtain ⟨sorted, hperm, hinc, hfeed⟩ := hloads.distinct (by decide +kernel)
  refine ⟨⟨sorted, hperm, hinc, (hpermuted _ (by decide)).trans hfeed⟩, ?_, ?_⟩
  · obtain ⟨-, hstrict⟩ := loads_rows {} [.ok ["2000", "7"], .ok ["1000", "3"]]
    exact ((hstrict rfl).1 (by decide +kernel)).2
  · obtain ⟨-, hstrict⟩ := loads_rows {}
      [.ok ["2000", "7"], .ok ["soon", "1"], .ok ["1000", "3"]]
    obtain ⟨fault, hfault, hfeed⟩ := (hstrict rfl).2 1 (.ok ["soon", "1"]) rfl (by decide +kernel)
      (by decide +kernel)
    have hsoon : faultAt {} 1 (.ok ["soon", "1"]) = some (.row 3 (.unreadableTime "soon")) := by
      decide +kernel
    rw [hfeed, Option.some.inj (hfault.symm.trans hsoon)]

end Layout

end TimeBuckets.Table
