/-
Readings taken one after the other, when reads may fail.

* `Readings` — a stream of the readings of samples ahead, any of which may fail to come;
* `Readings.takeBucket_cases` — taking a bucket takes all samples in front that belong to it, or
  fails with some of them taken and lost;
* `Grid.Reached` — a grid without a counter that has read on from another one;
* `Grid.readings` — such a grid as a stream of readings;
* `Grid.closeBucket_eq` — what is left to do once the values are taken.

Nothing is asked of the order of the samples here.  A failed read leaves the held sample held, so
that what is lost when a bucket fails are exactly the samples that were taken before it.
-/
import TimeBuckets.Proofs.Grid

namespace TimeBuckets

/-- The sample is earlier than a time. -/
def Sample.isBefore (time : Word) (a : Sample) : Bool := a.time < time

theorem any_head?_dropWhile {α : Type} (p : α → Bool) (items : List α) :
    (items.dropWhile p).head?.any p = false := by
  have hnot := List.head?_dropWhile_not p items
  rcases hhead : (items.dropWhile p).head? with _ | a
  · rfl
  · rwa [hhead] at hnot

theorem length_dropWhile_lt {α : Type} {p : α → Bool} {items : List α}
    (h : items.head?.any p = true) : (items.dropWhile p).length < items.length := by
  rcases items with _ | ⟨a, rest⟩
  · exact absurd h Bool.false_ne_true
  · rw [List.head?_cons, Option.any_some] at h
    rw [List.dropWhile_cons_of_pos h, List.length_cons]
    exact Nat.lt_succ_of_le (List.dropWhile_sublist p).length_le

/-! ### Streams of readings -/

section Stream

variable {σ : Type}

/-- A stream that has samples ahead and gives the readings of those in front that pass a test.
Taking one may also fail, which leaves all samples ahead and the stream in a state that has
`Failed` with the fault. -/
structure Readings [ValueStream σ] (Holds : σ → List Sample → Prop) (takes : Sample → Bool)
    (Failed : Fault → σ → Prop) : Prop where
  length_le {c : σ} {items : List Sample} : Holds c items → items.length ≤ ValueStream.pending c
  hasValue {c : σ} {items : List Sample} :
    Holds c items → ValueStream.hasValue c = .ok (items.head?.any takes) c
  nextValue {c : σ} {a : Sample} {rest : List Sample} : Holds c (a :: rest) → takes a = true →
    (∃ c', ValueStream.nextValue c = .ok a.toReal c' ∧ Holds c' rest) ∨
    ∃ fault c', ValueStream.nextValue c = .error fault c' ∧ Holds c' (a :: rest) ∧ Failed fault c'

/-- The stream failed with some samples taken, and the next one passes the test as well. -/
def Stuck (Holds : σ → List Sample → Prop) (takes : Sample → Bool) (Failed : Fault → σ → Prop)
    (items : List Sample) (fault : Fault) (c : σ) : Prop :=
  ∃ front tail, items = front ++ tail ∧ (∀ a ∈ front, takes a = true) ∧
    tail.head?.any takes = true ∧ Holds c tail ∧ Failed fault c

namespace Readings

section Values

variable [ValueStream σ] {Holds : σ → List Sample → Prop} {takes : Sample → Bool}
  {Failed : Fault → σ → Prop}

/-- Taking the values of a bucket takes all samples in front that pass the test, or gets stuck
before one of them. -/
theorem takeValues_cases (h : Readings Holds takes Failed) :
    ∀ {items : List Sample} {c : σ} {n : Nat}, Holds c items → items.length ≤ n →
      (∃ c', takeValues n c = .ok ((items.takeWhile takes).map Sample.toReal) c' ∧
        Holds c' (items.dropWhile takes)) ∨
      ∃ fault c', takeValues n c = .error fault c' ∧ Stuck Holds takes Failed items fault c' := by
  intro items
  induction items with
  | nil =>
    intro c n hc _
    refine Or.inl ⟨c, ?_, hc⟩
    rcases n with _ | n
    · rfl
    · rw [takeValues, bind_of_ok (h.hasValue hc)]
      rfl
  | cons a rest ih =>
    intro c n hc hn
    rw [List.length_cons] at hn
    obtain ⟨n, rfl⟩ : ∃ m, n = m + 1 := ⟨n - 1, by omega⟩
    have hhas := h.hasValue hc
    rw [List.head?_cons, Option.any_some] at hhas
    by_cases ha : takes a = true
    · rw [takeValues, bind_of_ok hhas, ha, if_pos rfl, List.takeWhile_cons_of_pos ha,
        List.dropWhile_cons_of_pos ha]
      rcases h.nextValue hc ha with ⟨c₁, hnext, hrest⟩ | ⟨fault, c₁, hnext, hheld, hfailed⟩
      · rcases ih hrest (n := n) (by omega) with ⟨c', htake, hlast⟩ | ⟨fault, c', htake, hstuck⟩
        · refine Or.inl ⟨c', ?_, hlast⟩
          rw [bind_of_ok hnext, bind_of_ok htake]
          rfl
        · -- what was taken before a later failure is lost with the rest
          obtain ⟨front, tail, rfl, hfront, htail, hlast⟩ := hstuck
          refine Or.inr ⟨fault, c', ?_, a :: front, tail, rfl, ?_, htail, hlast⟩
          · rw [bind_of_ok hnext, bind_of_error htake]
          · exact List.forall_mem_cons.mpr ⟨ha, hfront⟩
      · refine Or.inr ⟨fault, c₁, bind_of_error hnext, [], a :: rest, rfl, nofun, ?_, hheld,
          hfailed⟩
        rwa [List.head?_cons, Option.any_some]
    · refine Or.inl ⟨c, ?_, ?_⟩
      · rw [takeValues, bind_of_ok hhas, if_neg ha, List.takeWhile_cons_of_neg ha]
        rfl
      · rwa [List.dropWhile_cons_of_neg ha]

end Values

end Readings

variable [BucketCursor σ]

/-- What is left to do once the values of a bucket are taken and their statistic is known. -/
def closeBucket (value : Float) : EStateM Fault σ Point := do
  let time ← readBucketTime
  BucketCursor.openNext
  return ⟨time, value⟩

/-- Taking a bucket sums up all samples in front that pass the test, or gets stuck before one of
them. -/
theorem Readings.takeBucket_cases {Holds : σ → List Sample → Prop} {takes : Sample → Bool}
    {Failed : Fault → σ → Prop} (h : Readings Holds takes Failed) {items : List Sample} {c : σ}
    (hc : Holds c items) (hhead : items.head?.any takes = true) (s : Statistic) :
    (∃ value c', s.ofValues? ((items.takeWhile takes).map Sample.toReal) = some value ∧
      takeBucket s c = closeBucket value c' ∧ Holds c' (items.dropWhile takes)) ∨
    ∃ fault c', takeBucket s c = .error fault c' ∧ Stuck Holds takes Failed items fault c' := by
  rcases h.takeValues_cases (n := ValueStream.pending c + 1) hc
    (Nat.le_succ_of_le (h.length_le hc)) with ⟨c', hvalues, hrest⟩ | ⟨fault, c', hvalues, hstuck⟩
  · have hbucket : bucketValues c = _ := hvalues
    rcases items with _ | ⟨a, rest⟩
    · exact absurd hhead Bool.false_ne_true
    · rw [List.head?_cons, Option.any_some] at hhead
      rw [List.takeWhile_cons_of_pos hhead, List.map_cons] at hbucket ⊢
      have hsum : summarize s c = .ok _ c' := bind_of_ok hbucket
      exact Or.inl ⟨_, c', rfl, bind_of_ok hsum, hrest⟩
  · have hbucket : bucketValues c = _ := hvalues
    exact Or.inr ⟨fault, c', bind_of_error (bind_of_error hbucket), hstuck⟩

namespace Resampler

variable {r : Resampler σ} {c : σ}

/-- The point of the open bucket is what taking the bucket gives, once the cursor has a value. -/
theorem nextPoint_of_hasValue (hhas : ValueStream.hasValue r.cursor = .ok true c) :
    r.nextPoint = match takeBucket r.statistic c with
      | .ok point c' => .ok point { r with cursor := c', latest := some point }
      | .error fault c' => .error fault { r with cursor := c' } := by
  have hmore : r.hasNext = .ok true { r with cursor := c } := onCursor_of_ok hhas
  rw [nextPoint, bind_of_ok hmore, if_pos rfl, get_bind]
  rcases htake : takeBucket r.statistic c with ⟨point, c'⟩ | ⟨fault, c'⟩
  · rw [bind_of_ok (onCursor_of_ok (r := { r with cursor := c }) htake)]
    rfl
  · rw [bind_of_error (onCursor_of_error (r := { r with cursor := c }) htake)]

/-- The same holds of a point that may be missing, if asking for a value changes nothing. -/
theorem next?_of_hasValue (hhas : ValueStream.hasValue r.cursor = .ok true r.cursor) :
    r.next? = match takeBucket r.statistic r.cursor with
      | .ok point c' => .ok (some point) { r with cursor := c', latest := some point }
      | .error fault c' => .error fault { r with cursor := c' } := by
  have hmore : r.hasNext = .ok true r := onCursor_of_ok hhas
  have hpoint := nextPoint_of_hasValue hhas
  rw [next?, bind_of_ok hmore, if_pos rfl]
  rcases htake : takeBucket r.statistic r.cursor with ⟨point, c'⟩ | ⟨fault, c'⟩
  · rw [htake] at hpoint
    rw [bind_of_ok hpoint]
    rfl
  · rw [htake] at hpoint
    rw [bind_of_error hpoint]

theorem next?_of_hasValue_error {fault : Fault}
    (hhas : ValueStream.hasValue r.cursor = .error fault c) :
    r.next? = .error fault { r with cursor := c } := by
  have hmore : r.hasNext = .error fault { r with cursor := c } := onCursor_of_error hhas
  exact bind_of_error hmore

/-- Only what the cursor answers about its values matters to a request for the next point. -/
theorem next?_congr (h : ValueStream.hasValue r.cursor = ValueStream.hasValue c) :
    r.next? = next? { r with cursor := c } := by
  have hmore : r.hasNext = hasNext { r with cursor := c } := by
    rw [hasNext, onCursor, onCursor, h]
  exact bind_congr_state hmore

end Resampler

end Stream

/-! ### Reads of a feed that may fail -/

namespace Feed

variable {f : Feed} {s : Sample} {rest : List Sample}

/-- The feed after a read that fails. -/
def missed (f : Feed) : Feed := { f with reads := f.reads + 1 }

theorem next_of_fault {fault : SourceFault} (h : f.nextFault? = some fault) :
    f.next = .error fault f.missed := by
  rw [next, h, missed]

/-- The last read failed with this fault. -/
def LastFailed (fault : Fault) (f : Feed) : Prop :=
  ∃ read, f.readFaults.lookup f.reads = some read ∧ fault = .source read

theorem not_lastFailed (hf : f.readFaults = []) (fault : Fault) : ¬ f.LastFailed fault := by
  rintro ⟨read, hlookup, -⟩
  rw [hf, List.lookup_nil] at hlookup
  exact absurd hlookup.symm (Option.some_ne_none read)

/-- A property of feeds that reading ahead keeps, whether it fails or not. -/
structure KeptByReads (P : Feed → Prop) : Prop where
  pulled (f : Feed) : P f → (f.hasNext = true → f.nextFault? = none) → P f.pulled
  missed (f : Feed) : P f → f.nextFault?.isSome = true → P f.missed

theorem keptByReads_reliable : KeptByReads fun f => f.readFaults = [] where
  pulled f hf _ := (readFaults_pulled f).trans hf
  missed _ hf _ := hf

end Feed

namespace Grid

variable {P : Feed → Prop} {g₀ g : Grid} {items : List Sample}

/-! ### Grids without a counter -/

/-- Reading ahead takes what is next, or fails and leaves everything but the number of reads. -/
theorem pull_cases (g : Grid) :
    (pull g = .ok () g.started ∧ (g.feed.hasNext = true → g.feed.nextFault? = none)) ∨
    ∃ fault, pull g = .error (.source fault) { g with feed := g.feed.missed } ∧
      g.feed.nextFault? = some fault := by
  by_cases hnone : g.feed.hasNext = true → g.feed.nextFault? = none
  · exact Or.inl ⟨pull_of_no_fault hnone, hnone⟩
  · obtain ⟨hnext, hfault⟩ := Classical.not_imp.mp hnone
    obtain ⟨fault, hfault⟩ := Option.ne_none_iff_exists'.mp hfault
    have hread : read g = .error (.source fault) { g with feed := g.feed.missed } := by
      rw [read, Feed.next_of_fault hfault]
    refine Or.inr ⟨fault, ?_, hfault⟩
    rw [pull, get_bind, if_pos hnext]
    exact bind_of_error hread

theorem stock_started (hcounter : g.counter = none) : g.started.stock = g.feed.remaining := by
  rcases g.stock_started_cases with hstock | ⟨hcounts, -⟩
  · exact hstock
  · rw [hcounter] at hcounts
    cases hcounts

/-- The grid `g` is `g₀` after some reading.  It has these samples ahead, the first of which is
held, and a feed of a certain kind. -/
structure Reached (P : Feed → Prop) (g₀ g : Grid) (items : List Sample) : Prop where
  eq : g = { g₀ with feed := g.feed, phase := g.phase }
  begun : g.phase ≠ .unread
  stock_eq : g.stock = items
  feed : P g.feed

theorem Reached.refl (hbegun : g.phase ≠ .unread) (h : P g.feed) : Reached P g g g.stock :=
  ⟨rfl, hbegun, rfl, h⟩

theorem Reached.boundary_eq (h : Reached P g₀ g items) : g.boundary = g₀.boundary :=
  (congrArg boundary h.eq :)

theorem Reached.counter_eq (h : Reached P g₀ g items) : g.counter = g₀.counter :=
  (congrArg counter h.eq :)

theorem stock_of_begun (hbegun : g.phase ≠ .unread) :
    (g.stock = [] ∧ g.phase = .spent) ∨
      ∃ s, g.stock = s :: g.feed.remaining ∧ g.phase = .ready s := by
  rw [stock]
  rcases hphase : g.phase with _ | s | _
  · exact absurd hphase hbegun
  · exact Or.inr ⟨s, rfl, rfl⟩
  · exact Or.inl ⟨rfl, rfl⟩

theorem hasValue_of_begun (hbegun : g.phase ≠ .unread) :
    hasValue g = .ok (g.stock.head?.any (Sample.isBefore g.boundary)) g := by
  rw [hasValue, bind_of_ok (fill_of_begun hbegun), get_bind]
  rcases stock_of_begun hbegun with ⟨hstock, hphase⟩ | ⟨s, hstock, hphase⟩
  · rw [hstock, hphase]
    rfl
  · rw [hstock, hphase]
    rfl

theorem hasValue_of_fill {g' : Grid} (hfill : fill g = .ok () g') (hbegun : g'.phase ≠ .unread) :
    hasValue g = hasValue g' := by
  rw [hasValue, bind_of_ok hfill, bind_of_ok (fill_of_begun hbegun)]

theorem length_stock_le (hbegun : g.phase ≠ .unread) : g.stock.length ≤ pending g := by
  refine Nat.le_of_eq ?_
  rw [pending, Feed.left_eq]
  rcases stock_of_begun hbegun with ⟨hstock, hphase⟩ | ⟨s, hstock, hphase⟩
  · rw [hstock, hphase]
    rfl
  · rw [hstock, hphase, List.length_cons]

/-- A grid without a counter gives the readings before its boundary. -/
theorem readings (hcounter : g₀.counter = none) (hP : Feed.KeptByReads P) :
    Readings (Reached P g₀) (Sample.isBefore g₀.boundary) fun fault g => g.feed.LastFailed fault
      where
  length_le h := by
    rw [← h.stock_eq]
    exact length_stock_le h.begun
  hasValue {g items} h := by
    rw [← h.stock_eq, ← h.boundary_eq]
    exact hasValue_of_begun h.begun
  nextValue {g a rest} h ha := by
    have hmore := hasValue_of_begun h.begun
    rw [h.stock_eq, h.boundary_eq, List.head?_cons, Option.any_some, ha] at hmore
    rcases stock_of_begun h.begun with ⟨hstock, -⟩ | ⟨s, hstock, hphase⟩
    · rw [h.stock_eq] at hstock
      exact absurd hstock (List.cons_ne_nil _ _)
    · rw [h.stock_eq] at hstock
      obtain ⟨rfl, rfl⟩ := List.cons.inj hstock
      have hplain : g.counter = none := h.counter_eq.trans hcounter
      have hstep := nextValue_of_plain hmore hphase hplain
      rcases pull_cases g with ⟨hpull, hnone⟩ | ⟨fault, hpull, hfault⟩
      · refine Or.inl ⟨_, hstep.trans (bind_of_ok hpull), ?_, g.begun_of_started,
          stock_started hplain, hP.pulled _ h.feed hnone⟩
        rw [started, h.eq]
      · refine Or.inr ⟨_, _, hstep.trans (bind_of_error hpull), ⟨?_, h.begun, ?_, ?_⟩, fault,
          hfault, rfl⟩
        · rw [h.eq]
        · rw [← h.stock_eq, stock, stock, hphase]
          rfl
        · exact hP.missed _ h.feed (Option.isSome_of_mem hfault)

/-! ### Closing a bucket -/

/-- The end of the bucket of the sample that comes next, or of the open one if there is none. -/
def endFor (g : Grid) (next : Option Sample) : Except Fault Word :=
  match next with
  | some s => g.bucketEnd s.time
  | none => .ok g.boundary

theorem openBucket_eq (hbegun : g.phase ≠ .unread) :
    openBucket g = match g.endFor g.stock.head? with
      | .ok last => .ok () { g with boundary := last }
      | .error fault => .error fault g := by
  rcases stock_of_begun hbegun with ⟨hstock, hphase⟩ | ⟨s, hstock, hphase⟩
  · have hopen : openBucket g = .ok () g := by rw [openBucket, hphase]
    rw [hopen, hstock]
    rfl
  · rcases hend : g.bucketEnd s.time with fault | last
    · simp only [openBucket, hphase, hstock, List.head?_cons, endFor, hend]
    · simp only [openBucket, hphase, hstock, List.head?_cons, endFor, hend]

/-- Opening the same bucket once more changes nothing. -/
theorem openBucket_of_openBucket {g' : Grid} (hbegun : g.phase ≠ .unread)
    (h : openBucket g = .ok () g') : openBucket g' = .ok () g' := by
  rw [openBucket_eq hbegun] at h
  rcases hend : g.endFor g.stock.head? with fault | last
  · rw [hend] at h
    exact absurd h nofun
  · rw [hend] at h
    obtain ⟨-, rfl⟩ := EStateM.Result.ok.inj h
    have hend' : ({ g with boundary := last } : Grid).endFor
        ({ g with boundary := last } : Grid).stock.head? = .ok last := by
      rcases hhead : g.stock.head? with _ | s
      · exact congrArg _ hhead
      · rw [hhead] at hend
        exact (congrArg _ hhead).trans hend
    rw [openBucket_eq (g := { g with boundary := last }) hbegun, hend']

/-- The first reading ahead opens the bucket of the first sample, or fails and leaves everything
but the number of reads. -/
theorem fill_cases (hphase : g.phase = .unread) :
    (fill g = openBucket g.started ∧ (g.feed.hasNext = true → g.feed.nextFault? = none)) ∨
    ∃ fault, fill g = .error (.source fault) { g with feed := g.feed.missed } ∧
      g.feed.nextFault? = some fault := by
  have hfill : fill g = (pull >>= fun _ => openBucket) g := by
    rw [fill, get_bind, hphase]
  rw [hfill]
  rcases pull_cases g with ⟨hpull, hnone⟩ | ⟨fault, hpull, hfault⟩
  · exact Or.inl ⟨bind_of_ok hpull, hnone⟩
  · exact Or.inr ⟨fault, bind_of_error hpull, hfault⟩

theorem fill_of_reliable (hf : g.feed.readFaults = []) (hphase : g.phase = .unread) :
    fill g = openBucket g.started := by
  rcases fill_cases hphase with ⟨hfill, -⟩ | ⟨fault, -, hfault⟩
  · exact hfill
  · rw [Feed.nextFault?_of_reliable hf] at hfault
    exact absurd hfault.symm (Option.some_ne_none fault)

/-- Closing a bucket gives its point if words can hold the start of the bucket and the end of the
next one, and changes nothing else than the boundary. -/
theorem closeBucket_eq (hbegun : g.phase ≠ .unread) (value : Float) :
    closeBucket value g = match g.bucketTime, g.endFor g.stock.head? with
      | .ok time, .ok last => .ok ⟨time, value⟩ { g with boundary := last }
      | .ok _, .error fault => .error fault g
      | .error fault, _ => .error fault g := by
  have hopen : openNext g = openBucket g := bind_of_ok (fill_of_begun hbegun)
  rw [openBucket_eq hbegun] at hopen
  rcases htime : g.bucketTime with fault | time
  · have hread : readBucketTime g = .error fault g := by
      rw [readBucketTime]
      show (match g.bucketTime with
        | .ok time => EStateM.Result.ok time g
        | .error fault => .error fault g) = _
      rw [htime]
    exact bind_of_error hread
  · have hread : readBucketTime g = .ok time g := by
      rw [readBucketTime]
      show (match g.bucketTime with
        | .ok time => EStateM.Result.ok time g
        | .error fault => .error fault g) = _
      rw [htime]
    rw [closeBucket, bind_of_ok hread]
    rcases hlast : g.endFor g.stock.head? with fault | last
    · rw [hlast] at hopen
      exact bind_of_error hopen
    · rw [hlast] at hopen
      exact bind_of_ok hopen

end Grid

end TimeBuckets
