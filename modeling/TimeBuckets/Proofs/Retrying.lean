/-
Asking for the next point again after a read has failed.

* `CutShort` — a point for the end of a stretch of samples in place of one for all of it;
* `Retried` — answers when reads may fail, next to the answers when none does;
* `Grid.Waiting`, `Grid.Behind` — two grids over the same samples, of which the second one has lost
  samples of the open bucket;
* `Grid.Trails.next?_cases` — what one more request does to two such grids;
* `Grid.points_after_failures` — whatever reads fail, a point lacks just the samples that were taken
  for it before a read failed, and is never at another place.

Each grid is followed as it is asked again and again.  A failed read leaves the grid behind: what
was taken of the open bucket is gone, and the next request sums up only what is left of it.  Once a
bucket is closed the two grids have the same samples ahead.
-/
import TimeBuckets.Proofs.Agreement
import TimeBuckets.Proofs.FixedWidth
import TimeBuckets.Proofs.Readings

namespace TimeBuckets

variable {samples lost : List Sample} {s : Statistic}

/-! ### Answers with and without failures -/

/-- The first point is the statistic of a stretch of the samples that begins with the lost ones, and
the second one has the same time but is the statistic of the rest of this stretch. -/
structure CutShort (samples : List Sample) (s : Statistic) (lost : List Sample) (p q : Point) :
    Prop where
  time_eq : q.time = p.time
  values : ∃ kept, lost ++ kept <:+: samples ∧
    s.ofValues? ((lost ++ kept).map Sample.toReal) = some p.value ∧
    s.ofValues? (kept.map Sample.toReal) = some q.value

theorem CutShort.eq_of_nil {p q : Point} (h : CutShort samples s [] p q) : q = p := by
  obtain ⟨kept, -, hp, hq⟩ := h.values
  have hvalue : q.value = p.value := Option.some.inj (hq.symm.trans hp)
  rcases p with ⟨time, value⟩
  rcases q with ⟨time', value'⟩
  obtain rfl : time' = time := h.time_eq
  obtain rfl : value' = value := hvalue
  rfl

/-- The answers to requests for the next point when reads may fail, next to the answers to as many
of them as are needed when none fails.  The list in front are the samples that were lost since the
last point: a failure may lose more of them, and the next point lacks these samples and no others.
All other answers are the same. -/
inductive Retried (samples : List Sample) (s : Statistic) :
    List Sample → List (Except Fault Answer) → List (Except Fault Answer) → Prop
  | nil {lost : List Sample} : Retried samples s lost [] []
  | failed {lost taken : List Sample} {read : SourceFault}
      {whole retried : List (Except Fault Answer)} :
      Retried samples s (lost ++ taken) whole retried →
      Retried samples s lost whole (.error (.source read) :: retried)
  | point {lost : List Sample} {p q : Point} {whole retried : List (Except Fault Answer)} :
      CutShort samples s lost p q → Retried samples s [] whole retried →
      Retried samples s lost (.ok (.point (some p)) :: whole) (.ok (.point (some q)) :: retried)
  | fault {lost : List Sample} {fault : Fault} {whole retried : List (Except Fault Answer)} :
      Retried samples s [] whole retried →
      Retried samples s lost (.error fault :: whole) (.error fault :: retried)
  | ended {whole retried : List (Except Fault Answer)} :
      Retried samples s [] whole retried →
      Retried samples s [] (.ok (.point none) :: whole) (.ok (.point none) :: retried)

/-- Every point after failures stands for a point without them. -/
theorem Retried.exists_point {whole retried : List (Except Fault Answer)} {q : Point}
    (h : Retried samples s lost whole retried) (hq : q ∈ Answer.points retried) :
    ∃ p ∈ Answer.points whole, ∃ lost, CutShort samples s lost p q := by
  induction h with
  | nil => exact absurd hq List.not_mem_nil
  | failed _ ih => exact ih hq
  | @point _ p _ _ _ hcut _ ih =>
    rcases List.mem_cons.mp (show q ∈ _ :: Answer.points _ from hq) with rfl | hq
    · exact ⟨p, List.mem_cons_self, _, hcut⟩
    · obtain ⟨p', hp', hcut'⟩ := ih hq
      exact ⟨p', List.mem_cons_of_mem p hp', hcut'⟩
  | fault _ ih => exact ih hq
  | ended _ ih => exact ih hq

/-- Without a failure there is no difference. -/
theorem Retried.eq_of_no_failure {whole retried : List (Except Fault Answer)}
    (h : Retried samples s [] whole retried)
    (hno : ∀ read, .error (.source read) ∉ retried) : retried = whole := by
  generalize hlost : ([] : List Sample) = lost at h
  induction h with
  | nil => rfl
  | failed _ _ => exact absurd List.mem_cons_self (hno _)
  | point hcut _ ih =>
    subst hlost
    rw [hcut.eq_of_nil, ih (fun read hmem => hno read (List.mem_cons_of_mem _ hmem)) rfl]
  | fault _ ih => rw [ih (fun read hmem => hno read (List.mem_cons_of_mem _ hmem)) rfl]
  | ended _ ih => rw [ih (fun read hmem => hno read (List.mem_cons_of_mem _ hmem)) rfl]

/-! ### Requests for the next point -/

namespace Resampler

variable {σ : Type} [BucketCursor σ] {r r' : Resampler σ}

/-- The answers to this many requests for the next point. -/
def nextAnswers (n : Nat) (r : Resampler σ) : List (Except Fault Answer) :=
  r.answers (List.replicate n .next?)

theorem nextAnswers_of_ok {p : Option Point} (h : r.next? = .ok p r') (n : Nat) :
    r.nextAnswers (n + 1) = .ok (.point p) :: r'.nextAnswers n := by
  rw [nextAnswers, List.replicate_succ, answers, answer, handle, after_of_ok h, h]
  rfl

theorem nextAnswers_of_error {fault : Fault} (h : r.next? = .error fault r') (n : Nat) :
    r.nextAnswers (n + 1) = .error fault :: r'.nextAnswers n := by
  rw [nextAnswers, List.replicate_succ, answers, answer, handle, after_of_error h, h]
  rfl

theorem nextAnswers_congr (h : r.next? = r'.next?) (n : Nat) :
    r.nextAnswers n = r'.nextAnswers n := by
  rcases n with _ | n
  · rfl
  · rw [nextAnswers, nextAnswers, List.replicate_succ, answers, answers, answer, answer, handle,
      handle, after, after, h]

/-- Asking for the next point gives no points but those of a drain that comes to its end. -/
theorem mem_of_drain {n : Nat} {last : Resampler σ} (hend : last.next? = .ok none last)
    {p : Point} : ∀ {m : Nat} {points : List Point} {r : Resampler σ},
      drain next? m r = (⟨points, none⟩, last) → p ∈ Answer.points (r.nextAnswers n) →
      p ∈ points := by
  induction n with
  | zero => exact fun _ hp => absurd hp List.not_mem_nil
  | succ n ih =>
    intro m points r hdrain hp
    -- a drain that has stopped is asked on in its last state
    have hstop {points : List Point} : r.next? = .ok none last → p ∈ points := by
      intro hnext
      rw [nextAnswers_of_ok hnext] at hp
      have hnil : drain next? 0 last = (⟨[], none⟩, last) := rfl
      exact absurd (ih hnil hp) List.not_mem_nil
    rcases m with _ | m
    · obtain ⟨-, rfl⟩ := Prod.mk.inj hdrain
      exact hstop hend
    · rw [drain] at hdrain
      rcases hnext : r.next? with ⟨_ | point, r'⟩ | ⟨fault, r'⟩
      · rw [hnext] at hdrain
        obtain ⟨-, rfl⟩ := Prod.mk.inj hdrain
        exact hstop hnext
      · rw [hnext] at hdrain
        rw [nextAnswers_of_ok hnext] at hp
        obtain ⟨hdrained, hlast⟩ := Prod.mk.inj hdrain
        obtain ⟨rfl, hfault⟩ := Drained.mk.inj hdrained
        rcases List.mem_cons.mp hp with rfl | hp
        · exact List.mem_cons_self
        · refine List.mem_cons_of_mem _ (ih (m := m) (Prod.ext ?_ hlast) hp)
          rw [← hfault]
      · rw [hnext] at hdrain
        exact absurd (congrArg (fun d => d.1.fault) hdrain) (Option.some_ne_none fault)

theorem Gives.mem {points : List Point} (h : r.Gives points) {n : Nat} {p : Point}
    (hp : p ∈ Answer.points (r.nextAnswers n)) : p ∈ points := by
  obtain ⟨last, hdrain, hend⟩ := h
  exact mem_of_drain hend hdrain hp

end Resampler

namespace Grid

variable {g₀ g g₀' g' : Grid}

/-! ### A grid that falls behind -/

/-- Two grids without a counter that differ in their feeds and in what they hold.  No read of the
first one fails. -/
structure Beside (g₀ g : Grid) : Prop where
  eq : g₀ = { g with feed := g₀.feed, phase := g₀.phase }
  plain : g.counter = none
  reliable : g₀.feed.readFaults = []

namespace Beside

theorem plain₀ (h : Beside g₀ g) : g₀.counter = none :=
  (congrArg counter h.eq).trans h.plain

theorem boundary_eq (h : Beside g₀ g) : g₀.boundary = g.boundary := (congrArg boundary h.eq :)

theorem bucketTime_eq (h : Beside g₀ g) : g₀.bucketTime = g.bucketTime :=
  (congrArg bucketTime h.eq :)

theorem endFor_eq (h : Beside g₀ g) : g₀.endFor = g.endFor := (congrArg endFor h.eq :)

end Beside

/-- Neither grid has read anything, and both have the same samples ahead. -/
structure Waiting (samples : List Sample) (g₀ g : Grid) : Prop extends Beside g₀ g where
  unread₀ : g₀.phase = .unread
  unread : g.phase = .unread
  remaining₀ : g₀.feed.remaining = samples
  remaining : g.feed.remaining = samples

/-- The second grid has lost some samples of the open bucket, which has more of them ahead then. -/
structure Behind (samples lost : List Sample) (g₀ g : Grid) : Prop extends Beside g₀ g where
  begun₀ : g₀.phase ≠ .unread
  begun : g.phase ≠ .unread
  stock_eq : g₀.stock = lost ++ g.stock
  suffix : g₀.stock <:+ samples
  lost_before : ∀ a ∈ lost, a.isBefore g.boundary = true
  next_before : lost ≠ [] → g.stock.head?.any (Sample.isBefore g.boundary) = true

namespace Behind

/-- Both grids have a value, or neither has one and nothing is lost. -/
theorem head_eq (h : Behind samples lost g₀ g) :
    g₀.stock.head?.any (Sample.isBefore g.boundary)
      = g.stock.head?.any (Sample.isBefore g.boundary) := by
  rw [h.stock_eq]
  rcases lost with _ | ⟨a, rest⟩
  · rfl
  · rw [h.next_before (List.cons_ne_nil a rest), List.cons_append, List.head?_cons,
      Option.any_some, h.lost_before a List.mem_cons_self]

theorem hasValue₀ (h : Behind samples lost g₀ g) :
    ValueStream.hasValue g₀ = .ok (g.stock.head?.any (Sample.isBefore g.boundary)) g₀ := by
  rw [← h.head_eq, ← h.boundary_eq]
  exact hasValue_of_begun h.begun₀

theorem suffix_stock (h : Behind samples lost g₀ g) : g.stock <:+ samples :=
  (h.stock_eq ▸ List.suffix_append lost g.stock).trans h.suffix

theorem setEnd (h : Behind samples [] g₀ g) (last : Word) :
    Behind samples [] { g₀ with boundary := last } { g with boundary := last } :=
  ⟨⟨congrArg (fun g₀ : Grid => { g₀ with boundary := last }) h.eq, h.plain, h.reliable⟩, h.begun₀,
    h.begun, h.stock_eq, h.suffix, nofun, fun hne => absurd rfl hne⟩

/-- A read that fails while a bucket is taken loses what was taken before it. -/
theorem of_stuck {P : Feed → Prop} {taken tail : List Sample} (h : Behind samples lost g₀ g)
    (hstock : g.stock = taken ++ tail) (htaken : ∀ a ∈ taken, a.isBefore g.boundary = true)
    (htail : tail.head?.any (Sample.isBefore g.boundary) = true) (hreached : Reached P g g' tail) :
    Behind samples (lost ++ taken) g₀ g' where
  eq := by
    rw [hreached.eq]
    exact h.eq
  plain := hreached.counter_eq.trans h.plain
  reliable := h.reliable
  begun₀ := h.begun₀
  begun := hreached.begun
  stock_eq := by rw [h.stock_eq, hstock, hreached.stock_eq, List.append_assoc]
  suffix := h.suffix
  lost_before := by
    rw [hreached.boundary_eq]
    exact List.forall_mem_append.mpr ⟨h.lost_before, htaken⟩
  next_before _ := by rwa [hreached.boundary_eq, hreached.stock_eq]

/-- Once both grids have taken all values of the bucket, they have the same samples ahead. -/
theorem of_reached {P P₀ : Feed → Prop} {rest : List Sample} (h : Behind samples lost g₀ g)
    (hP₀ : ∀ f, P₀ f → f.readFaults = []) (hrest : rest <:+ samples)
    (hreached₀ : Reached P₀ g₀ g₀' rest) (hreached : Reached P g g' rest) :
    Behind samples [] g₀' g' where
  eq := by
    rw [hreached₀.eq, hreached.eq, h.eq]
  plain := hreached.counter_eq.trans h.plain
  reliable := hP₀ _ hreached₀.feed
  begun₀ := hreached₀.begun
  begun := hreached.begun
  stock_eq := by rw [hreached₀.stock_eq, hreached.stock_eq, List.nil_append]
  suffix := by rwa [hreached₀.stock_eq]
  lost_before := nofun
  next_before hne := absurd rfl hne

/-- Both grids close a bucket at the same time and open the same next one, or fail alike. -/
theorem closeBucket_cases (h : Behind samples [] g₀ g) (value₀ value : Float) :
    (∃ time g₀' g', closeBucket value₀ g₀ = .ok ⟨time, value₀⟩ g₀' ∧
      closeBucket value g = .ok ⟨time, value⟩ g' ∧ Behind samples [] g₀' g') ∨
    ∃ fault, closeBucket value₀ g₀ = .error fault g₀ ∧ closeBucket value g = .error fault g := by
  rw [closeBucket_eq h.begun₀, closeBucket_eq h.begun, h.bucketTime_eq, h.endFor_eq, h.stock_eq,
    List.nil_append]
  rcases g.bucketTime with fault | time
  · exact Or.inr ⟨fault, rfl, rfl⟩
  · rcases g.endFor g.stock.head? with fault | last
    · exact Or.inr ⟨fault, rfl, rfl⟩
    · exact Or.inl ⟨time, _, _, rfl, rfl, h.setEnd last⟩

/-- Taking a bucket loses more samples of it to a failed read, or gives two points of the same time,
or fails on both grids alike. -/
theorem takeBucket_cases (h : Behind samples lost g₀ g)
    (hhead : g.stock.head?.any (Sample.isBefore g.boundary) = true) (s : Statistic) :
    (∃ read taken g', takeBucket s g = .error (.source read) g' ∧
      Behind samples (lost ++ taken) g₀ g') ∨
    (∃ p q g₀' g', takeBucket s g₀ = .ok p g₀' ∧ takeBucket s g = .ok q g' ∧
      CutShort samples s lost p q ∧ Behind samples [] g₀' g') ∨
    ∃ fault g₀' g', takeBucket s g₀ = .error fault g₀' ∧ takeBucket s g = .error fault g' ∧
      Behind samples [] g₀' g' := by
  have hkept : Feed.KeptByReads fun _ => True := ⟨fun _ _ _ => trivial, fun _ _ _ => trivial⟩
  rcases (readings h.plain hkept).takeBucket_cases (Reached.refl h.begun trivial) hhead s with
    ⟨value, g₁, hvalue, htake, hreached⟩ |
    ⟨fault, g', htake, taken, tail, hstock, htaken, htail, hreached, read, -, rfl⟩
  · have hhead₀ := h.head_eq.trans hhead
    rw [← h.boundary_eq] at hhead₀
    rcases (readings h.plain₀ Feed.keptByReads_reliable).takeBucket_cases
      (Reached.refl h.begun₀ h.reliable) hhead₀ s with ⟨value₀, g₁', hvalue₀, htake₀, hreached₀⟩ |
        ⟨fault, g₁', -, front, tail, -, -, -, hreached₀, hfailed⟩
    · rw [h.boundary_eq, h.stock_eq, List.takeWhile_append_of_pos h.lost_before] at hvalue₀
      rw [h.boundary_eq, h.stock_eq, List.dropWhile_append_of_pos h.lost_before] at hreached₀
      have hclosed := h.of_reached (fun _ hf => hf)
        ((List.dropWhile_suffix _).trans h.suffix_stock) hreached₀ hreached
      have htaken := (List.prefix_append_right_inj lost).mpr
        (List.takeWhile_prefix (Sample.isBefore g.boundary) (l := g.stock))
      rw [← h.stock_eq] at htaken
      rw [htake₀, htake]
      rcases hclosed.closeBucket_cases value₀ value with
        ⟨time, g₀', g', hclose₀, hclose, hbehind⟩ | ⟨fault, hclose₀, hclose⟩
      · exact Or.inr (Or.inl ⟨_, _, g₀', g', hclose₀, hclose, ⟨rfl, _,
          htaken.isInfix.trans h.suffix.isInfix, hvalue₀, hvalue⟩, hbehind⟩)
      · exact Or.inr (Or.inr ⟨fault, _, _, hclose₀, hclose, hclosed⟩)
    · exact absurd hfailed (Feed.not_lastFailed hreached₀.feed fault)
  · exact Or.inl ⟨read, taken, g', htake, h.of_stuck hstock htaken htail hreached⟩

end Behind

/-! ### Requests to both grids -/

/-- Two resamplers that take the same statistic, the second one of a grid that is behind. -/
structure Trails (samples : List Sample) (s : Statistic) (lost : List Sample)
    (w r : Resampler Grid) : Prop where
  behind : Behind samples lost w.cursor r.cursor
  statistic₀ : w.statistic = s
  statistic : r.statistic = s

namespace Trails

variable {w r : Resampler Grid}

/-- A request to the second grid loses samples to a failed read, or a request to each grid gives the
same but for the samples that were lost. -/
theorem next?_cases (h : Trails samples s lost w r) :
    (∃ read taken r', r.next? = .error (.source read) r' ∧
      Trails samples s (lost ++ taken) w r') ∨
    (∃ p q w' r', w.next? = .ok (some p) w' ∧ r.next? = .ok (some q) r' ∧
      CutShort samples s lost p q ∧ Trails samples s [] w' r') ∨
    (∃ fault w' r', w.next? = .error fault w' ∧ r.next? = .error fault r' ∧
      Trails samples s [] w' r') ∨
    lost = [] ∧ w.next? = .ok none w ∧ r.next? = .ok none r := by
  have hhas₀ := h.behind.hasValue₀
  have hhas : ValueStream.hasValue r.cursor = _ := hasValue_of_begun h.behind.begun
  by_cases hhead : r.cursor.stock.head?.any (Sample.isBefore r.cursor.boundary) = true
  · rw [hhead] at hhas₀ hhas
    have hnext₀ := Resampler.next?_of_hasValue hhas₀
    have hnext := Resampler.next?_of_hasValue hhas
    rw [h.statistic₀] at hnext₀
    rw [h.statistic] at hnext
    rcases h.behind.takeBucket_cases hhead s with ⟨read, taken, g', htake, hbehind⟩ |
      ⟨p, q, g₀', g', htake₀, htake, hcut, hbehind⟩ | ⟨fault, g₀', g', htake₀, htake, hbehind⟩
    · rw [htake] at hnext
      exact Or.inl ⟨read, taken, _, hnext, hbehind, h.statistic₀, rfl⟩
    · rw [htake₀] at hnext₀
      rw [htake] at hnext
      exact Or.inr (Or.inl ⟨p, q, _, _, hnext₀, hnext, hcut, hbehind, rfl, rfl⟩)
    · rw [htake₀] at hnext₀
      rw [htake] at hnext
      exact Or.inr (Or.inr (Or.inl ⟨fault, _, _, hnext₀, hnext, hbehind, rfl, rfl⟩))
  · -- nothing that is left belongs to the bucket, so that nothing of it can be lost
    have hlost : lost = [] := by_contra fun hne => hhead (h.behind.next_before hne)
    rw [Bool.not_eq_true] at hhead
    rw [hhead] at hhas₀ hhas
    exact Or.inr (Or.inr (Or.inr ⟨hlost, Walk.next?_of_not_hasValue hhas₀,
      Walk.next?_of_not_hasValue hhas⟩))

/-- However often the second grid is asked for the next point, the first one can be asked so often
that their answers compare. -/
theorem exists_retried {n : Nat} : ∀ {lost : List Sample} {w r : Resampler Grid},
    Trails samples s lost w r →
    ∃ m, Retried samples s lost (w.nextAnswers m) (r.nextAnswers n) := by
  -- on the number of requests, for all resamplers that trail others
  induction n with
  | zero => exact fun _ => ⟨0, Retried.nil⟩
  | succ n ih =>
    intro lost w r h
    rcases h.next?_cases with ⟨read, taken, r', hnext, h'⟩ |
      ⟨p, q, w', r', hnext₀, hnext, hcut, h'⟩ | ⟨fault, w', r', hnext₀, hnext, h'⟩ |
      ⟨rfl, hnext₀, hnext⟩
    · obtain ⟨m, hretried⟩ := ih h'
      refine ⟨m, ?_⟩
      rw [Resampler.nextAnswers_of_error hnext]
      exact Retried.failed hretried
    · obtain ⟨m, hretried⟩ := ih h'
      refine ⟨m + 1, ?_⟩
      rw [Resampler.nextAnswers_of_ok hnext₀, Resampler.nextAnswers_of_ok hnext]
      exact Retried.point hcut hretried
    · obtain ⟨m, hretried⟩ := ih h'
      refine ⟨m + 1, ?_⟩
      rw [Resampler.nextAnswers_of_error hnext₀, Resampler.nextAnswers_of_error hnext]
      exact Retried.fault hretried
    · obtain ⟨m, hretried⟩ := ih h
      refine ⟨m + 1, ?_⟩
      rw [Resampler.nextAnswers_of_ok hnext₀, Resampler.nextAnswers_of_ok hnext]
      exact Retried.ended hretried

end Trails

namespace Waiting

theorem started (h : Waiting samples g₀ g) : Behind samples [] g₀.started g.started where
  eq := by
    rw [Grid.started, h.eq]
    rfl
  plain := h.plain
  reliable := (Feed.readFaults_pulled g₀.feed).trans h.reliable
  begun₀ := g₀.begun_of_started
  begun := g.begun_of_started
  stock_eq := by
    rw [stock_started h.plain₀, stock_started h.plain, h.remaining₀, h.remaining, List.nil_append]
  suffix := (stock_started h.plain₀).trans h.remaining₀ ▸ List.suffix_rfl
  lost_before := nofun
  next_before hne := absurd rfl hne

theorem missed (h : Waiting samples g₀ g) :
    Waiting samples g₀ { g with feed := g.feed.missed } :=
  ⟨⟨h.eq, h.plain, h.reliable⟩, h.unread₀, h.unread, h.remaining₀, h.remaining⟩

end Waiting

/-- The first requests fail until the first sample can be read, and the bucket of this sample is
opened on both grids or on neither. -/
theorem Waiting.exists_retried {n : Nat} : ∀ {w r : Resampler Grid},
    Waiting samples w.cursor r.cursor → w.statistic = s → r.statistic = s →
    ∃ m, Retried samples s [] (w.nextAnswers m) (r.nextAnswers n) := by
  induction n with
  | zero => exact fun _ _ _ => ⟨0, Retried.nil⟩
  | succ n ih =>
    intro w r h hw hs
    have hstarted := h.started
    have hfill₀ := fill_of_reliable h.reliable h.unread₀
    rcases fill_cases h.unread with ⟨hfill, -⟩ | ⟨read, hfill, -⟩
    · rw [openBucket_eq hstarted.begun₀, hstarted.endFor_eq, hstarted.stock_eq,
        List.nil_append] at hfill₀
      rw [openBucket_eq hstarted.begun] at hfill
      rcases hend : r.cursor.started.endFor r.cursor.started.stock.head? with fault | last
      · rw [hend] at hfill₀ hfill
        have hnext₀ := Resampler.next?_of_hasValue_error (r := w) (bind_of_error hfill₀)
        have hnext := Resampler.next?_of_hasValue_error (r := r) (bind_of_error hfill)
        obtain ⟨m, hretried⟩ := Trails.exists_retried (n := n)
          (w := { w with cursor := w.cursor.started })
          (r := { r with cursor := r.cursor.started }) ⟨hstarted, hw, hs⟩
        refine ⟨m + 1, ?_⟩
        rw [Resampler.nextAnswers_of_error hnext₀, Resampler.nextAnswers_of_error hnext]
        exact Retried.fault hretried
      · rw [hend] at hfill₀ hfill
        have hopened := hstarted.setEnd last
        have hnext₀ := Resampler.next?_congr (r := w) (hasValue_of_fill hfill₀ hopened.begun₀)
        have hnext := Resampler.next?_congr (r := r) (hasValue_of_fill hfill hopened.begun)
        obtain ⟨m, hretried⟩ := Trails.exists_retried (n := n + 1)
          (w := { w with cursor := { w.cursor.started with boundary := last } })
          (r := { r with cursor := { r.cursor.started with boundary := last } })
          ⟨hopened, hw, hs⟩
        refine ⟨m, ?_⟩
        rwa [Resampler.nextAnswers_congr hnext₀, Resampler.nextAnswers_congr hnext]
    · have hnext := Resampler.next?_of_hasValue_error (r := r) (bind_of_error hfill)
      obtain ⟨m, hretried⟩ := ih (w := w) (r := { r with cursor := _ }) h.missed hw hs
      refine ⟨m, ?_⟩
      rw [Resampler.nextAnswers_of_error hnext]
      exact Retried.failed (show Retried samples s ([] ++ []) _ _ from hretried)

/-- A grid that has read nothing of these samples, some reads of which fail. -/
def failing (samples : List Sample) (faults : List (Nat × SourceFault)) {width : Word}
    (offset : Word) (hw : 0 < width) : Grid :=
  { fresh samples offset none hw with
    feed := { Feed.ofSamples samples with readFaults := faults } }

theorem waiting_failing (samples : List Sample) (faults : List (Nat × SourceFault)) {width : Word}
    (offset : Word) (hw : 0 < width) :
    Waiting samples (fresh samples offset none hw) (failing samples faults offset hw) :=
  ⟨⟨rfl, rfl, rfl⟩, rfl, rfl, Feed.remaining_ofSamples samples, Feed.remaining_ofSamples samples⟩

/-- Whatever reads fail, requests for the next point that go on after the failures give the points
that they give when no read fails, at the same times and in the same order.  The value of a point
lacks the samples of its bucket that had been taken when a read failed since the point before it,
and no others. -/
theorem points_after_failures (samples : List Sample) {width : Word} (hw : 0 < width)
    (offset : Word) (s : Statistic) (interval : Interval) (faults : List (Nat × SourceFault)) :
    ∃ g₀ g, make (.ofSamples samples) width offset none = .ok g₀ ∧
      make { Feed.ofSamples samples with readFaults := faults } width offset none = .ok g ∧
      ∀ n,
        (∃ m, Retried samples s [] ((Resampler.mk g₀ s interval none).nextAnswers m)
            ((Resampler.mk g s interval none).nextAnswers n) ∧
          ((∀ read, .error (.source read) ∉ (Resampler.mk g s interval none).nextAnswers n) →
            (Resampler.mk g s interval none).nextAnswers n
              = (Resampler.mk g₀ s interval none).nextAnswers m)) ∧
        ∀ points, (Resampler.mk g₀ s interval none).Gives points →
          ∀ q ∈ Answer.points ((Resampler.mk g s interval none).nextAnswers n),
            ∃ p ∈ points, ∃ lost, CutShort samples s lost p q := by
  refine ⟨_, failing samples faults offset hw, make_of_pos hw, dif_pos hw, fun n => ?_⟩
  obtain ⟨m, hretried⟩ := Waiting.exists_retried (n := n) (s := s)
    (w := ⟨_, s, interval, none⟩) (r := ⟨_, s, interval, none⟩)
    (waiting_failing samples faults offset hw) rfl rfl
  refine ⟨⟨m, hretried, hretried.eq_of_no_failure⟩, fun points hgives q hq => ?_⟩
  obtain ⟨p, hp, hcut⟩ := hretried.exists_point hq
  exact ⟨p, hgives.mem hp, hcut⟩

/-- The third read fails when one sample of the first bucket has been taken. -/
theorem points_after_failures_of_four :
    ∃ g₀ g, make (.ofSamples [⟨0, .whole 1⟩, ⟨3, .whole 2⟩, ⟨6, .whole 4⟩, ⟨13, .whole 8⟩]) 10 0
        none = .ok g₀ ∧
      make { Feed.ofSamples [⟨0, .whole 1⟩, ⟨3, .whole 2⟩, ⟨6, .whole 4⟩, ⟨13, .whole 8⟩] with
        readFaults := [(3, .exhausted)] } 10 0 none = .ok g ∧
      ∀ n,
        (∃ m, Retried [⟨0, .whole 1⟩, ⟨3, .whole 2⟩, ⟨6, .whole 4⟩, ⟨13, .whole 8⟩] .sum []
            ((Resampler.mk g₀ .sum ⟨10, .fixed⟩ none).nextAnswers m)
            ((Resampler.mk g .sum ⟨10, .fixed⟩ none).nextAnswers n) ∧
          ((∀ read, .error (.source read) ∉
              (Resampler.mk g .sum ⟨10, .fixed⟩ none).nextAnswers n) →
            (Resampler.mk g .sum ⟨10, .fixed⟩ none).nextAnswers n
              = (Resampler.mk g₀ .sum ⟨10, .fixed⟩ none).nextAnswers m)) ∧
        ∀ points, (Resampler.mk g₀ .sum ⟨10, .fixed⟩ none).Gives points →
          ∀ q ∈ Answer.points ((Resampler.mk g .sum ⟨10, .fixed⟩ none).nextAnswers n),
            ∃ p ∈ points, ∃ lost, CutShort [⟨0, .whole 1⟩, ⟨3, .whole 2⟩, ⟨6, .whole 4⟩,
              ⟨13, .whole 8⟩] .sum lost p q :=
  points_after_failures [⟨0, .whole 1⟩, ⟨3, .whole 2⟩, ⟨6, .whole 4⟩, ⟨13, .whole 8⟩] (by decide) 0
    .sum ⟨10, .fixed⟩ [(3, .exhausted)]

/-- Without failures the first bucket sums up to 7.  If the third read fails, the next request gives
6 for it. -/
theorem sum_after_failure_not_whole :
    ¬ ∀ q ∈ Answer.points ((Resampler.mk (failing [⟨0, .whole 1⟩, ⟨3, .whole 2⟩, ⟨6, .whole 4⟩,
        ⟨13, .whole 8⟩] [(3, .exhausted)] 0 (by decide : (0 : Word) < 10)) .sum ⟨10, .fixed⟩
          none).nextAnswers 4),
      q ∈ (Resampler.mk (fresh [⟨0, .whole 1⟩, ⟨3, .whole 2⟩, ⟨6, .whole 4⟩, ⟨13, .whole 8⟩] 0 none
        (by decide : (0 : Word) < 10)) .sum ⟨10, .fixed⟩ none).drainAll.1.points := by
  intro hall
  have hwhole : (Resampler.mk (fresh [⟨0, .whole 1⟩, ⟨3, .whole 2⟩, ⟨6, .whole 4⟩, ⟨13, .whole 8⟩]
      0 none (by decide : (0 : Word) < 10)) .sum ⟨10, .fixed⟩ none).drainAll.1.points.map
        Point.value = [7, 8] := by decide +kernel
  have hretried : (Answer.points ((Resampler.mk (failing [⟨0, .whole 1⟩, ⟨3, .whole 2⟩,
      ⟨6, .whole 4⟩, ⟨13, .whole 8⟩] [(3, .exhausted)] 0 (by decide : (0 : Word) < 10)) .sum
        ⟨10, .fixed⟩ none).nextAnswers 4)).map Point.value = [6, 8] := by decide +kernel
  obtain ⟨q, hq, hvalue⟩ := List.mem_map.mp (hretried ▸ List.mem_cons_self)
  have hmem := List.mem_map_of_mem (f := Point.value) (hall q hq)
  rw [hwhole, hvalue, List.mem_cons, List.mem_singleton] at hmem
  exact absurd hmem (by decide +kernel)

end Grid

end TimeBuckets
