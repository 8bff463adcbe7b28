/-
Runs are the maximal stretches of activity.

* `Runs.Holds` — a cursor with certain pairs ahead, the first of which is held;
* `Runs.walk` — runs as a walk over the pairs of neighbouring samples;
* `MaximalRun` — indices that are active without a break, and whose neighbours are not;
* `Runs.gives_maximal_runs` — draining gives one point for each maximal run of active pairs, if it
  can be told what each pair contributes.

The cursor knows only one pair at a time.  That its buckets are maximal is therefore shown on
lists: `exists_spans` finds the stretches of `cut` again among the indices.
-/
import TimeBuckets.Proofs.Spans
import TimeBuckets.Proofs.Values
import TimeBuckets.Proofs.Walk

namespace TimeBuckets

namespace Runs

variable {counter : Option Counter} {r : Runs} {pair : Pair} {items : List Pair}

/-! ### Single operations -/

/-- The samples that are held or still to be read. -/
def stock (r : Runs) : List Sample :=
  match r.phase with
  | .unread => r.feed.remaining
  | .ready pair => pair.previous :: pair.current :: r.feed.remaining
  | .spent => []

/-- The cursor has begun to read, reads without faults, and has these pairs ahead. -/
structure Holds (counter : Option Counter) (r : Runs) (items : List Pair) : Prop where
  reliable : r.feed.readFaults = []
  counts : r.counter = counter
  begun : r.phase ≠ .unread
  increasing : Increasing r.stock
  ahead : pairs r.stock = items

theorem Holds.phase_nil (h : Holds counter r []) : r.phase = .spent := by
  rcases hphase : r.phase with _ | pair | _
  · exact absurd hphase h.begun
  · have hahead := h.ahead
    rw [stock, hphase] at hahead
    exact absurd hahead (List.cons_ne_nil _ _)
  · rfl

theorem Holds.phase_cons (h : Holds counter r (pair :: items)) :
    r.phase = .ready pair ∧ pairs (pair.current :: r.feed.remaining) = items := by
  have hahead := h.ahead
  rcases hphase : r.phase with _ | held | _
  · exact absurd hphase h.begun
  · rw [stock, hphase] at hahead
    obtain ⟨rfl, hrest⟩ := List.cons.inj hahead
    exact ⟨rfl, hrest⟩
  · rw [stock, hphase] at hahead
    exact absurd hahead.symm (List.cons_ne_nil _ _)

theorem read_of_remaining {s : Sample} {rest : List Sample} (hf : r.feed.readFaults = [])
    (h : r.feed.remaining = s :: rest) : read r = .ok s { r with feed := r.feed.advanced } := by
  rw [read, Feed.next_of_remaining hf h]

theorem pairWith_of_remaining {previous s : Sample} {rest : List Sample}
    (hf : r.feed.readFaults = []) (h : r.feed.remaining = s :: rest)
    (hlt : previous.time < s.time) :
    pairWith previous r
      = .ok ⟨⟩ { r with feed := r.feed.advanced, phase := .ready ⟨previous, s⟩ } := by
  rw [pairWith, bind_of_ok (read_of_remaining hf h), get_bind, checkOrder_of_lt hlt]
  rfl

/-- Moving on leaves the pairs behind the first one. -/
theorem advance_of_holds (h : Holds counter r (pair :: items)) :
    ∃ r', advance r = .ok ⟨⟩ r' ∧ Holds counter r' items ∧ r'.start = r.start := by
  obtain ⟨hphase, hitems⟩ := h.phase_cons
  have hinc := h.increasing
  rw [stock, hphase] at hinc
  have hinc' := (List.pairwise_cons.mp hinc).2
  rcases hrem : r.feed.remaining with _ | ⟨s, rest⟩
  · refine ⟨{ r with phase := .spent }, ?_,
      ⟨h.reliable, h.counts, nofun, List.Pairwise.nil, ?_⟩, rfl⟩
    · rw [advance, get_bind, hphase]
      simp only [Feed.hasNext_eq, hrem]
      rfl
    · rw [hrem] at hitems
      exact hitems
  · rw [hrem] at hinc' hitems
    have hlt := (List.pairwise_cons.mp hinc').1 s List.mem_cons_self
    refine ⟨{ r with feed := r.feed.advanced, phase := .ready ⟨pair.current, s⟩ }, ?_,
      ⟨h.reliable, h.counts, nofun, ?_, ?_⟩, rfl⟩
    · rw [advance, get_bind, hphase]
      simp only [Feed.hasNext_eq, hrem]
      exact pairWith_of_remaining h.reliable hrem hlt
    · rw [stock, Feed.remaining_advanced, hrem]
      exact hinc'
    · rw [stock, Feed.remaining_advanced, hrem]
      exact hitems

/-- Whether a pair lies between runs. -/
def isIdle (counter : Option Counter) (pair : Pair) : Bool := !isLive counter pair

theorem fill_of_begun (h : r.phase ≠ .unread) : fill r = .ok ⟨⟩ r := by
  rw [fill, get_bind]
  rcases hphase : r.phase with _ | pair | _
  · exact absurd hphase h
  · rfl
  · rfl

/-! ### The pair that is held -/

theorem contributed_of_clocked (h : pair.clocked r.counter = true) :
    contributed pair r = .ok (amount r.counter pair) r := by
  rw [contributed, contribution_of_clocked h]

theorem contributed_of_not_clocked (h : pair.clocked r.counter = false) :
    contributed pair r = .error .overflow r := by
  rw [contributed, contribution_of_not_clocked h]

section Ready

variable (hphase : r.phase = .ready pair)

include hphase

/-- A pair that is live is found, and gives the start. -/
theorem skip_of_live (hclocked : pair.clocked r.counter = true)
    (hlive : isLive r.counter pair = true) (n : Nat) :
    skip (n + 1) r = .ok () { r with start := pair.previous.time } := by
  have hamount : (amount r.counter pair != 0) = true := hlive
  rw [skip, get_bind, hphase]
  dsimp only
  rw [bind_of_ok (contributed_of_clocked hclocked), if_pos hamount]
  rfl

/-- A pair that is idle is left behind. -/
theorem skip_of_idle (hclocked : pair.clocked r.counter = true)
    (hidle : isLive r.counter pair = false) (n : Nat) :
    skip (n + 1) r = (do advance; skip n) r := by
  have hamount : (amount r.counter pair != 0) = false := hidle
  rw [skip, get_bind, hphase]
  dsimp only
  rw [bind_of_ok (contributed_of_clocked hclocked), hamount, if_neg Bool.false_ne_true]

theorem skip_of_not_clocked (hclocked : pair.clocked r.counter = false) (n : Nat) :
    skip (n + 1) r = .error .overflow r := by
  rw [skip, get_bind, hphase]
  exact bind_of_error (contributed_of_not_clocked hclocked)

theorem holdsLive_of_clocked (hclocked : pair.clocked r.counter = true) :
    holdsLive r = .ok (isLive r.counter pair) r := by
  rw [holdsLive, get_bind, hphase]
  exact bind_of_ok (contributed_of_clocked hclocked)

theorem holdsLive_of_not_clocked (hclocked : pair.clocked r.counter = false) :
    holdsLive r = .error .overflow r := by
  rw [holdsLive, get_bind, hphase]
  exact bind_of_error (contributed_of_not_clocked hclocked)

theorem hasValue_of_clocked (hclocked : pair.clocked r.counter = true) :
    hasValue r = .ok (isLive r.counter pair) r := by
  have hbegun : r.phase ≠ .unread := hphase ▸ Phase.ready_ne_unread pair
  exact (bind_of_ok (fill_of_begun hbegun)).trans (holdsLive_of_clocked hphase hclocked)

theorem hasValue_of_not_clocked (hclocked : pair.clocked r.counter = false) :
    hasValue r = .error .overflow r := by
  have hbegun : r.phase ≠ .unread := hphase ▸ Phase.ready_ne_unread pair
  exact (bind_of_ok (fill_of_begun hbegun)).trans (holdsLive_of_not_clocked hphase hclocked)

theorem nextValue_of_not_clocked (hclocked : pair.clocked r.counter = false) :
    nextValue r = .error .overflow r := by
  rw [nextValue, bind_of_error (hasValue_of_not_clocked hphase hclocked)]

/-- The amount of a live pair is the value, and the next pair is read ahead. -/
theorem nextValue_of_live (hclocked : pair.clocked r.counter = true)
    (hlive : isLive r.counter pair = true) :
    nextValue r = (do advance; return amount r.counter pair) r := by
  have hhas := hasValue_of_clocked hphase hclocked
  rw [hlive] at hhas
  rw [nextValue, bind_of_ok hhas, get_bind, if_pos rfl, hphase]
  exact bind_of_ok (contributed_of_clocked hclocked)

end Ready

/-! ### Pairs ahead -/

/-- What moving on to the next run does: it leaves out the idle pairs in front and notes where the
run starts, unless it comes upon a pair first whose amount cannot be told. -/
inductive Skipped (counter : Option Counter) (items : List Pair) :
    EStateM.Result Fault Runs Unit → Prop
  | found {r : Runs} (h : Holds counter r (items.dropWhile (isIdle counter)))
    (hstart : ∀ pair ∈ (items.dropWhile (isIdle counter)).head?, r.start = pair.previous.time) :
    Skipped counter items (.ok () r)
  | halted {r : Runs} (front : List Pair) {rest : List Pair} {pair : Pair}
    (hitems : items = front ++ pair :: rest)
    (hidle : ∀ p ∈ front, isIdle counter p = true) (hclocked : pair.clocked counter = false)
    (h : Holds counter r (pair :: rest)) : Skipped counter items (.error .overflow r)

theorem Skipped.cons {result : EStateM.Result Fault Runs Unit}
    (hidle : isIdle counter pair = true) (h : Skipped counter items result) :
    Skipped counter (pair :: items) result := by
  cases h with
  | found h hstart =>
    rw [← List.dropWhile_cons_of_pos (p := isIdle counter) (l := items) hidle] at h hstart
    exact .found h hstart
  | halted front hitems hfront hclocked h =>
    refine .halted (pair :: _) (by rw [hitems]; rfl) (fun p hp => ?_) hclocked h
    rcases List.mem_cons.mp hp with rfl | hp
    · exact hidle
    · exact hfront p hp

/-- Where the amounts of all pairs can be told, the next run is found. -/
theorem Skipped.of_clocked {result : EStateM.Result Fault Runs Unit}
    (h : Skipped counter items result) (hclocked : ∀ pair ∈ items, pair.clocked counter = true) :
    ∃ r', result = .ok () r' ∧ Holds counter r' (items.dropWhile (isIdle counter)) ∧
      ∀ pair ∈ (items.dropWhile (isIdle counter)).head?, r'.start = pair.previous.time := by
  cases h with
  | found h hstart => exact ⟨_, rfl, h, hstart⟩
  | halted front hitems hfront hnot h =>
    have hall := hclocked _ (hitems ▸ List.mem_append_right _ List.mem_cons_self)
    cases hnot.symm.trans hall

theorem Skipped.of_ok {r : Runs} (h : Skipped counter items (.ok () r)) :
    Holds counter r (items.dropWhile (isIdle counter)) ∧
      ∀ pair ∈ (items.dropWhile (isIdle counter)).head?, r.start = pair.previous.time := by
  cases h with
  | found h hstart => exact ⟨h, hstart⟩

theorem skip_of_holds : ∀ {items : List Pair} {r : Runs} {n : Nat}, Holds counter r items →
    items.length ≤ n → Skipped counter items (skip n r) := by
  intro items
  induction items with
  | nil =>
    intro r n h _
    have hskip : skip n r = .ok () r := by
      rcases n with _ | n
      · rfl
      · rw [skip, get_bind, h.phase_nil]
        rfl
    rw [hskip]
    exact .found h nofun
  | cons pair rest ih =>
    intro r n h hn
    rw [List.length_cons] at hn
    obtain ⟨n, rfl⟩ : ∃ m, n = m + 1 := ⟨n - 1, by omega⟩
    obtain ⟨hphase, -⟩ := h.phase_cons
    obtain rfl := h.counts
    rcases hclocked : pair.clocked r.counter with _ | _
    · rw [skip_of_not_clocked hphase hclocked]
      exact .halted [] rfl nofun hclocked h
    rcases hlive : isLive r.counter pair with _ | _
    -- a live pair stops the search and gives the start, an idle one is left behind
    · obtain ⟨r₁, hadvance, h₁, -⟩ := advance_of_holds h
      rw [skip_of_idle hphase hclocked hlive, bind_of_ok hadvance]
      exact (ih h₁ (by omega)).cons (by rw [isIdle, hlive]; rfl)
    · have hdrop : (pair :: rest).dropWhile (isIdle r.counter) = pair :: rest :=
        List.dropWhile_cons_of_neg (by rw [isIdle, hlive]; decide)
      rw [skip_of_live hphase hclocked hlive]
      refine .found ?_ ?_
      · rw [hdrop]
        exact ⟨h.reliable, h.counts, h.begun, h.increasing, h.ahead⟩
      · rw [hdrop]
        rintro p hp
        rw [Option.mem_some_iff.mp hp]

theorem skipIdle_of_holds (h : Holds counter r items) : Skipped counter items (skipIdle r) := by
  have hlen : items.length ≤ r.feed.left + 1 := by
    rcases items with _ | ⟨pair, rest⟩
    · exact Nat.zero_le _
    · obtain ⟨-, hrest⟩ := h.phase_cons
      rw [← hrest, List.length_cons, length_pairs, List.length_cons, Feed.left_eq]
      omega
  exact skip_of_holds h hlen

theorem readFirst_of_unread (hf : r.feed.readFaults = []) (hinc : Increasing r.feed.remaining) :
    ∃ r', readFirst r = .ok ⟨⟩ r' ∧ Holds r.counter r' (pairs r.feed.remaining) := by
  rw [readFirst, modify_bind, get_bind, Feed.hasNext_eq]
  rcases hrem : r.feed.remaining with _ | ⟨first, _ | ⟨second, rest⟩⟩
  · exact ⟨_, rfl, hf, rfl, nofun, List.Pairwise.nil, rfl⟩
  · have hadvanced : r.feed.advanced.remaining = [] := by rw [Feed.remaining_advanced, hrem]; rfl
    have hread := read_of_remaining (r := { r with phase := .spent }) hf hrem
    rw [List.isEmpty_cons, Bool.not_false, if_pos rfl, bind_of_ok hread, get_bind,
      Feed.hasNext_eq, hadvanced]
    exact ⟨_, rfl, hf, rfl, nofun, List.Pairwise.nil, rfl⟩
  · have hadvanced : r.feed.advanced.remaining = second :: rest := by
      rw [Feed.remaining_advanced, hrem]
      rfl
    rw [hrem] at hinc
    have hlt := (List.pairwise_cons.mp hinc).1 second List.mem_cons_self
    have hread := read_of_remaining (r := { r with phase := .spent }) hf hrem
    have hpair := pairWith_of_remaining
      (r := { r with feed := r.feed.advanced, phase := .spent }) hf hadvanced hlt
    rw [List.isEmpty_cons, Bool.not_false, if_pos rfl, bind_of_ok hread, get_bind,
      Feed.hasNext_eq, hadvanced, List.isEmpty_cons, Bool.not_false, if_pos rfl, hpair]
    refine ⟨_, rfl, hf, rfl, nofun, ?_, ?_⟩
    · rw [stock, Feed.remaining_advanced, hadvanced]
      exact hinc
    · rw [stock, Feed.remaining_advanced, hadvanced]
      rfl

/-- The first look ahead reads up to the first run. -/
theorem fill_of_unread (hphase : r.phase = .unread) (hf : r.feed.readFaults = [])
    (hinc : Increasing r.feed.remaining) :
    Skipped r.counter (pairs r.feed.remaining) (fill r) := by
  obtain ⟨r₁, hread, h₁⟩ := readFirst_of_unread hf hinc
  have hfill : fill r = skipIdle r₁ := by
    rw [fill, get_bind, hphase]
    exact bind_of_ok hread
  rw [hfill]
  exact skipIdle_of_holds h₁

theorem hasValue_of_nil (h : Holds counter r []) : hasValue r = .ok false r := by
  rw [hasValue, bind_of_ok (fill_of_begun h.begun), holdsLive, get_bind, h.phase_nil]
  rfl

/-- What a cursor answers about its bucket once it has begun to read. -/
theorem hasValue_of_holds (h : Holds counter r items)
    (hclocked : ∀ pair ∈ items.head?, pair.clocked counter = true) :
    hasValue r = .ok (items.head?.any (isLive counter)) r := by
  rcases items with _ | ⟨pair, rest⟩
  · exact hasValue_of_nil h
  · have hcounter := h.counts
    rw [hasValue_of_clocked h.phase_cons.1 (hcounter ▸ hclocked pair rfl), hcounter]
    rfl

theorem nextValue_of_none {r' : Runs} (h : hasValue r = .ok false r') :
    nextValue r = .error (.noValue r'.text) r' := by
  rw [nextValue, bind_of_ok h]
  rfl

theorem nextValue_of_holds (h : Holds counter r (pair :: items))
    (hclocked : pair.clocked counter = true) (hlive : isLive counter pair = true) :
    ∃ r', nextValue r = .ok (amount counter pair) r' ∧ Holds counter r' items ∧
      r'.start = r.start := by
  obtain ⟨r', hadvance, h', hstart⟩ := advance_of_holds h
  obtain rfl := h.counts
  refine ⟨r', ?_, h', hstart⟩
  rw [nextValue_of_live h.phase_cons.1 hclocked hlive, bind_of_ok hadvance]
  rfl

/-! ### Runs as a walk -/

/-- The open run starts at this time, or no run is open because nothing is ahead. -/
def Opens (r : Runs) (items : List Pair) : Option Word → Prop
  | some start => r.start = start
  | none => items = []

theorem opens_head (h : ∀ pair ∈ items.head?, r.start = pair.previous.time) :
    Opens r items (items.head?.map fun pair => pair.previous.time) := by
  rcases items with _ | ⟨pair, rest⟩
  · rfl
  · exact h pair rfl

theorem Holds.length_le (h : Holds counter r items) : items.length ≤ pending r := by
  rcases items with _ | ⟨pair, rest⟩
  · exact Nat.zero_le _
  · obtain ⟨hphase, hrest⟩ := h.phase_cons
    rw [pending, hphase, ← hrest, List.length_cons, length_pairs, List.length_cons, Feed.left_eq]
    simp only [Nat.add_sub_cancel, Nat.le_refl]

/-- Runs walk over the pairs of neighbours, if their amounts can be told: a bucket takes pairs as
long as they are live, and idle pairs lie between buckets. -/
def walk (counter : Option Counter) : Walk Runs Pair Word where
  idle := isIdle counter
  enter pair := pair.previous.time
  takes _ pair := isLive counter pair
  value := amount counter
  time start := start
  Holds r items b :=
    Holds counter r items ∧ (∀ pair ∈ items, pair.clocked counter = true) ∧ Opens r items b
  takes_enter _ hidle := by simpa [isIdle] using hidle
  length_le h := h.1.length_le
  hasValue_open h := hasValue_of_holds h.1 fun pair hpair => h.2.1 pair (List.mem_of_mem_head? hpair)
  hasValue_none h := by
    obtain ⟨h, -, rfl⟩ := h
    exact hasValue_of_nil h
  nextValue {r pair items start} h hlive := by
    obtain ⟨hholds, hclocked, hopens⟩ := h
    obtain ⟨r', hnext, h', hstart⟩ :=
      nextValue_of_holds hholds (hclocked pair List.mem_cons_self) hlive
    exact ⟨r', hnext, h', fun p hp => hclocked p (List.mem_cons_of_mem pair hp),
      hstart.trans hopens⟩
  bucketTime h := congrArg Except.ok h.2.2
  openNext {r items start} h _ := by
    obtain ⟨hholds, hclocked, -⟩ := h
    obtain ⟨r', hskip, h', hstart⟩ := (skipIdle_of_holds hholds).of_clocked hclocked
    exact ⟨r', (bind_of_ok (fill_of_begun hholds.begun)).trans hskip, h',
      fun p hp => hclocked p ((List.dropWhile_sublist _).mem hp), opens_head hstart⟩

/-- A cursor that has read nothing yet starts a walk over the pairs of the samples that remain. -/
theorem starts_of_unread (hphase : r.phase = .unread) (hf : r.feed.readFaults = [])
    (hinc : Increasing r.feed.remaining) (hclocked : Clocked r.counter r.feed.remaining) :
    (walk r.counter).Starts r (pairs r.feed.remaining) := by
  obtain ⟨r', hfill, h', hstart⟩ := (fill_of_unread hphase hf hinc).of_clocked hclocked
  refine Walk.Starts.of_hasValue
    ⟨h', fun p hp => hclocked p ((List.dropWhile_sublist _).mem hp), opens_head hstart⟩ ?_
  show hasValue r = hasValue r'
  rw [hasValue, bind_of_ok hfill, bind_of_ok (fill_of_begun h'.begun)]

/-! ### Buckets are maximal runs -/

/-- The points are the statistics of the maximal runs of live pairs: one point for each run, in
order, at the time of the first sample of its first pair. -/
def RunPoints (counter : Option Counter) (s : Statistic) (samples : List Sample)
    (points : List Point) : Prop :=
  ∃ spans, SpansOf (isLive counter) (pairs samples) spans ∧
    List.Forall₂ (fun span point =>
      samples[span.1]?.map Sample.time = some point.time ∧
        s.ofValues? ((slice (pairs samples) span).map (amount counter)) = some point.value)
      spans points

/-- Draining gives the statistics of the maximal runs, whatever is measured, if the time between
neighbours can be told. -/
theorem gives_maximal_runs {samples : List Sample} (hinc : Increasing samples)
    {counter : Option Counter} (hclocked : Clocked counter samples) (s : Statistic)
    (interval : Interval) :
    ∃ points, (Resampler.mk (make (.ofSamples samples) counter) s interval none).Gives points ∧
      RunPoints counter s samples points := by
  have hremaining := Feed.remaining_ofSamples samples
  have hstarts : (walk counter).Starts (make (.ofSamples samples) counter) (pairs samples) := by
    have h := starts_of_unread (r := make (.ofSamples samples) counter) rfl rfl
      (by rwa [make, hremaining]) (by rwa [make, hremaining])
    rwa [make, hremaining] at h
  have hlen : (pairs samples).length ≤ pending (make (.ofSamples samples) counter) := by
    rw [pending, make, Feed.left_eq, hremaining, length_pairs]
    exact Nat.sub_le _ _
  obtain ⟨spans, hspans, heach⟩ := exists_spans (isLive counter) (pairs samples)
  refine ⟨_, Walk.gives hstarts hlen, spans, hspans, ?_⟩
  rw [List.forall₂_map_right_iff]
  refine heach.imp fun span stretch hslice => ⟨?_, ?_⟩
  · rw [(getElem?_of_pairs (getElem?_of_slice hslice)).1]
    rfl
  · rw [hslice]
    rfl

/-- Readings 5, 7, 0 and 3 make two runs, and the last sample belongs to the second one. -/
theorem gives_maximal_runs_of_four :
    ∃ points, (Resampler.mk (make (.ofSamples [⟨0, .whole 5⟩, ⟨10, .whole 7⟩, ⟨20, .whole 0⟩,
        ⟨30, .whole 3⟩]) none) .sum ⟨1, .run⟩ none).Gives points ∧
      RunPoints none .sum [⟨0, .whole 5⟩, ⟨10, .whole 7⟩, ⟨20, .whole 0⟩, ⟨30, .whole 3⟩]
        points :=
  gives_maximal_runs (by decide) (clocked_none _) .sum ⟨1, .run⟩

/-- The second sample is further from the first than a word can say.  Draining fails at once, although
the counter moved between any two samples. -/
theorem maximal_runs_overflow_of_three :
    (¬ ∀ (samples : List Sample) (c : Counter), Increasing samples →
      ∃ points, (Resampler.mk (make (.ofSamples samples) (some c)) .sum ⟨1, .run⟩ none).Gives points ∧
        RunPoints (some c) .sum samples points) ∧
    ((Resampler.mk (make (.ofSamples [⟨-4611686018427387904, .whole 0⟩,
        ⟨4611686018427387904, .whole 5⟩, ⟨4611686018427388904, .whole 12⟩])
        (some ⟨.monotonic, 9223372036854775807, 0⟩)) .sum ⟨1, .run⟩ none).drainAll).1
      = ⟨[], some .overflow⟩ := by
  have hdrain : ((Resampler.mk (make (.ofSamples [⟨-4611686018427387904, .whole 0⟩,
      ⟨4611686018427387904, .whole 5⟩, ⟨4611686018427388904, .whole 12⟩])
      (some ⟨.monotonic, 9223372036854775807, 0⟩)) .sum ⟨1, .run⟩ none).drainAll).1
        = ⟨[], some .overflow⟩ := rfl
  refine ⟨fun hall => ?_, hdrain⟩
  obtain ⟨points, ⟨r', hpoints, -⟩, -⟩ := hall [⟨-4611686018427387904, .whole 0⟩,
    ⟨4611686018427387904, .whole 5⟩, ⟨4611686018427388904, .whole 12⟩]
    ⟨.monotonic, 9223372036854775807, 0⟩ (by decide)
  rw [hpoints] at hdrain
  cases hdrain

end Runs

end TimeBuckets
