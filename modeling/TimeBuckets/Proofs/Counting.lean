/-
Counting over samples in any order.

* `Counter.Accepts`, `Counter.Refuses` — a pair whose amount can be told, and the fault of another;
* `Grid.Counting` — a grid that counts, with certain pairs ahead, in whatever order their samples
  are;
* `Grid.nextValue_of_accepts`, `Grid.nextValue_of_refused` — a pair that is accepted is counted, and
  another one is refused;
* `Grid.takeValues_before`, `Grid.takeValues_of_refused` — a bucket without a pair that is refused,
  and one with such a pair;
* `Grid.returns_nextValue` — whatever was asked before, only pairs that are accepted are counted.

A pair that is not in order leaves its first sample held and its second one read, so that what is
asked after the failure counts from the held sample to a later one.  The two need not be neighbours
then, but they are in order.
-/
import TimeBuckets.Proofs.Seek

namespace TimeBuckets

/-- The two samples are in strict order of time. -/
def Pair.Ordered (pair : Pair) : Prop := pair.previous.time < pair.current.time

/-- The first sample of the pair is earlier than a time. -/
def Pair.isBefore (time : Word) (pair : Pair) : Bool := pair.previous.time < time

namespace Counter

/-- The samples are in order of time, and the time between them can be told if the counter asks for
it. -/
def Accepts (c : Counter) (pair : Pair) : Prop :=
  pair.Ordered ∧ c.clocks pair.previous pair.current = true

instance (c : Counter) (pair : Pair) : Decidable (c.Accepts pair) :=
  inferInstanceAs (Decidable (pair.previous.time < pair.current.time ∧ _))

/-- What is wrong with a pair that is not accepted. -/
inductive Refuses (c : Counter) (pair : Pair) : Fault → Prop
  | disorder (h : pair.current.time ≤ pair.previous.time) (text : String) :
    Refuses c pair (.disorder pair.previous.time pair.current.time text)
  | overflow (h : pair.Ordered) (hclocks : c.clocks pair.previous pair.current = false) :
    Refuses c pair .overflow

end Counter

namespace Grid

variable {g : Grid} {c : Counter} {bad pair : Pair} {items rest : List Pair}

/-! ### Single operations -/

/-- The grid counts, has begun to read, reads without faults, and has these pairs ahead. -/
structure Counting (c : Counter) (g : Grid) (items : List Pair) : Prop where
  reliable : g.feed.readFaults = []
  counter_eq : g.counter = some c
  begun : g.phase ≠ .unread
  ahead : pairs g.stock = items

/-- The first sample of the first pair ahead is held, and the second one is read next. -/
theorem Counting.held (h : Counting c g (pair :: items)) :
    ∃ samples, g.phase = .ready pair.previous ∧ g.feed.remaining = pair.current :: samples ∧
      pairs (pair.current :: samples) = items := by
  have hahead := h.ahead
  rcases hphase : g.phase with _ | s | _
  · exact absurd hphase h.begun
  · rw [stock, hphase] at hahead
    rcases hrem : g.feed.remaining with _ | ⟨s', samples⟩
    · rw [hrem] at hahead
      exact absurd hahead.symm (List.cons_ne_nil _ _)
    · rw [hrem] at hahead
      obtain ⟨rfl, hitems⟩ := List.cons.inj hahead
      exact ⟨samples, rfl, rfl, hitems⟩
  · rw [stock, hphase] at hahead
    exact absurd hahead.symm (List.cons_ne_nil _ _)

theorem Counting.length_le (h : Counting c g items) : items.length ≤ pending g := by
  have hahead := h.ahead
  rw [pending]
  rcases hphase : g.phase with _ | s | _
  · exact absurd hphase h.begun
  · rw [stock, hphase] at hahead
    rw [← hahead, length_pairs, List.length_cons, Nat.add_sub_cancel, Feed.left_eq]
    exact Nat.le_succ _
  · rw [stock, hphase] at hahead
    rw [← hahead]
    exact Nat.le_refl _

theorem pull_counting (hf : g.feed.readFaults = []) (hcounter : g.counter = some c) :
    Counting c { g with feed := g.feed.pulled, phase := g.pulled } (pairs g.feed.remaining) := by
  have hreliable : g.feed.pulled.readFaults = [] := (Feed.readFaults_pulled g.feed).trans hf
  have hnext := Feed.remaining_pulled g.feed
  rcases hrem : g.feed.remaining with _ | ⟨s, _ | ⟨s', samples⟩⟩
  · have hphase : g.pulled = .spent := by rw [pulled, hrem]
    rw [hphase]
    exact ⟨hreliable, hcounter, Phase.spent_ne_unread, rfl⟩
  -- a sample alone makes no pair, and is not held
  · have hphase : g.pulled = .spent := by rw [pulled, hrem, hcounter]; rfl
    rw [hphase]
    exact ⟨hreliable, hcounter, Phase.spent_ne_unread, rfl⟩
  · have hphase : g.pulled = .ready s := by rw [pulled, hrem, hcounter]; rfl
    rw [hphase]
    refine ⟨hreliable, hcounter, Phase.ready_ne_unread s, ?_⟩
    show pairs (s :: g.feed.pulled.remaining) = _
    rw [hnext, hrem, List.tail_cons]

theorem hasValue_of_counting (h : Counting c g (pair :: items)) :
    hasValue g = .ok (pair.isBefore g.boundary) g := by
  obtain ⟨samples, hphase, -, -⟩ := h.held
  rw [hasValue, bind_of_ok (fill_of_begun h.begun), get_bind, hphase]
  rfl

theorem nextValue_eq_count (h : Counting c g (pair :: items))
    (hlt : pair.isBefore g.boundary = true) : nextValue g = count c pair.previous g := by
  obtain ⟨samples, hphase, -, -⟩ := h.held
  have hmore := hasValue_of_counting h
  rw [hlt] at hmore
  exact nextValue_of_counter hmore hphase h.counter_eq

/-- A pair that is accepted is counted. -/
theorem nextValue_of_accepts (h : Counting c g (pair :: items))
    (hlt : pair.isBefore g.boundary = true) (haccepts : c.Accepts pair) :
    ∃ feed phase, nextValue g = .ok (c.timed pair).value { g with feed := feed, phase := phase } ∧
      Counting c { g with feed := feed, phase := phase } items := by
  obtain ⟨samples, -, hrem, hitems⟩ := h.held
  have hcount := count_of_remaining h.counter_eq h.reliable hrem haccepts.1
  rw [if_pos haccepts.2] at hcount
  have hahead := pull_counting h.reliable h.counter_eq
  rw [hrem, hitems] at hahead
  exact ⟨_, _, (nextValue_eq_count h hlt).trans hcount, hahead⟩

/-- A pair that is not accepted is refused. -/
theorem nextValue_of_refused (h : Counting c g (pair :: items))
    (hlt : pair.isBefore g.boundary = true) (hbad : ¬ c.Accepts pair) :
    ∃ fault g', nextValue g = .error fault g' ∧ c.Refuses pair fault := by
  obtain ⟨samples, -, hrem, -⟩ := h.held
  rw [nextValue_eq_count h hlt]
  by_cases hle : pair.current.time ≤ pair.previous.time
  · refine ⟨_, { g with feed := g.feed.advanced }, ?_,
      .disorder hle (text { g with feed := g.feed.advanced })⟩
    exact count_of_disordered (read_of_remaining h.reliable hrem) (if_pos hle)
  · have hordered : pair.Ordered := Int64.not_le.mp hle
    have hclocks : c.clocks pair.previous pair.current = false :=
      eq_false_of_ne_true fun hclocks => hbad ⟨hordered, hclocks⟩
    have hcount := count_of_remaining h.counter_eq h.reliable hrem hordered
    rw [hclocks, if_neg Bool.false_ne_true] at hcount
    exact ⟨.overflow, _, hcount, .overflow hordered hclocks⟩

/-- With no pair before the boundary that is refused, the values up to the boundary are taken. -/
theorem takeValues_before {n : Nat} (h : Counting c g (items ++ bad :: rest))
    (haccepts : ∀ pair ∈ items, c.Accepts pair) (hbad : bad.isBefore g.boundary = false)
    (hn : items.length ≤ n) :
    ∃ feed phase, takeValues n g
        = .ok ((items.takeWhile (Pair.isBefore g.boundary)).map
            fun p => (c.timed p).value) { g with feed := feed, phase := phase } ∧
      Counting c { g with feed := feed, phase := phase }
        ((items.dropWhile (Pair.isBefore g.boundary)) ++ bad :: rest) := by
  induction items generalizing g n with
  | nil =>
    refine ⟨g.feed, g.phase, ?_, h⟩
    have hhas := hasValue_of_counting h
    rw [hbad] at hhas
    rcases n with _ | n
    · rfl
    · rw [takeValues, bind_of_ok (show ValueStream.hasValue g = _ from hhas)]
      rfl
  | cons pair items ih =>
    rw [List.length_cons] at hn
    obtain ⟨n, rfl⟩ : ∃ m, n = m + 1 := ⟨n - 1, by omega⟩
    have hhas : ValueStream.hasValue g = .ok (pair.isBefore g.boundary) g :=
      hasValue_of_counting h
    by_cases hlt : pair.isBefore g.boundary = true
    · obtain ⟨feed, phase, hnext, h'⟩ :=
        nextValue_of_accepts h hlt (haccepts pair List.mem_cons_self)
      obtain ⟨feed', phase', htake, hlast⟩ :=
        ih h' (fun p hp => haccepts p (List.mem_cons_of_mem _ hp)) hbad (n := n) (by omega)
      refine ⟨feed', phase', ?_, ?_⟩
      · rw [hlt] at hhas
        rw [takeValues, bind_of_ok hhas, if_pos rfl,
          bind_of_ok (show ValueStream.nextValue g = _ from hnext), bind_of_ok htake,
          List.takeWhile_cons_of_pos hlt, List.map_cons]
        rfl
      · rwa [List.dropWhile_cons_of_pos hlt]
    · refine ⟨g.feed, g.phase, ?_, ?_⟩
      · rw [takeValues, bind_of_ok hhas, if_neg hlt, List.takeWhile_cons_of_neg hlt]
        rfl
      · rwa [List.dropWhile_cons_of_neg hlt]

/-- With a pair before the boundary that is refused, taking values fails with it. -/
theorem takeValues_of_refused {n : Nat} (h : Counting c g (items ++ bad :: rest))
    (haccepts : ∀ pair ∈ items, c.Accepts pair) (hbad : ¬ c.Accepts bad)
    (hitems : ∀ pair ∈ items, pair.isBefore g.boundary = true)
    (hlt : bad.isBefore g.boundary = true) (hn : items.length < n) :
    ∃ fault g', takeValues n g = .error fault g' ∧ c.Refuses bad fault := by
  induction items generalizing g n with
  | nil =>
    obtain ⟨n, rfl⟩ : ∃ m, n = m + 1 := ⟨n - 1, by omega⟩
    have hhas : ValueStream.hasValue g = .ok true g := by
      rw [← hlt]
      exact hasValue_of_counting h
    obtain ⟨fault, g', hnext, hrefuses⟩ := nextValue_of_refused h hlt hbad
    refine ⟨fault, g', ?_, hrefuses⟩
    rw [takeValues, bind_of_ok hhas, if_pos rfl,
      bind_of_error (show ValueStream.nextValue g = _ from hnext)]
  | cons pair items ih =>
    rw [List.length_cons] at hn
    obtain ⟨n, rfl⟩ : ∃ m, n = m + 1 := ⟨n - 1, by omega⟩
    have hfirst := hitems pair List.mem_cons_self
    have hhas : ValueStream.hasValue g = .ok true g := by
      rw [← hfirst]
      exact hasValue_of_counting h
    obtain ⟨feed, phase, hnext, h'⟩ :=
      nextValue_of_accepts h hfirst (haccepts pair List.mem_cons_self)
    obtain ⟨fault, g', htake, hrefuses⟩ := ih h' (fun p hp => haccepts p (List.mem_cons_of_mem _ hp))
      (fun p hp => hitems p (List.mem_cons_of_mem _ hp)) hlt (n := n) (by omega)
    refine ⟨fault, g', ?_, hrefuses⟩
    rw [takeValues, bind_of_ok hhas, if_pos rfl,
      bind_of_ok (show ValueStream.nextValue g = _ from hnext), bind_of_error htake]

theorem openBucket_of_counting (h : Counting c g (pair :: items))
    (hfits : Fits g.width g.offset pair.previous.time) :
    ∃ last, openBucket g = .ok () { g with boundary := last } ∧
      last.toInt
        = startOf g.width.toInt g.offset.toInt pair.previous.time.toInt + g.width.toInt := by
  obtain ⟨samples, hphase, -, -⟩ := h.held
  obtain ⟨last, hlast, heq⟩ := bucketEnd_of_fits hfits
  refine ⟨last, ?_, heq⟩
  simp only [openBucket, hphase, hlast]

/-- The time that stands for the open bucket is found back from its end. -/
theorem readBucketTime_of_boundary {time : Word} (hfits : Fits g.width g.offset time)
    (h : g.boundary.toInt = startOf g.width.toInt g.offset.toInt time.toInt + g.width.toInt) :
    readBucketTime g = .ok (start g.width g.offset time) g := by
  have hstart := toInt_start g.width_toInt_pos hfits
  have hback : Word.ofInt? (g.boundary.toInt - g.width.toInt)
      = some (start g.width g.offset time) := by
    rw [Word.ofInt?_eq_some_iff, hstart]
    omega
  have htime : BucketCursor.bucketTime g = .ok (start g.width g.offset time) := by
    show g.bucketTime = _
    rw [bucketTime, hback, align_eq_ok_iff, hstart, startOf_startOf g.width_toInt_pos]
  rw [readBucketTime, htime]

/-! ### Only pairs in order are counted -/

/-- The amount is counted between two of the samples that are in order. -/
def IsCounted (c : Counter) (samples : List Sample) (amount : Float) : Prop :=
  ∃ pair : Pair, pair.previous ∈ samples ∧ pair.current ∈ samples ∧ pair.Ordered ∧
    c.delta pair.previous pair.current = .ok amount

/-- The grid counts over these samples, and what it holds is one of them. -/
structure Draws (c : Counter) (samples : List Sample) (g : Grid) : Prop where
  counter_eq : g.counter = some c
  samples_eq : g.feed.samples.toList = samples
  held : ∀ s, g.phase = .ready s → s ∈ samples

variable {samples : List Sample}

theorem Draws.withFeed (h : Draws c samples g) {feed : Feed}
    (hfeed : feed.rewound = g.feed.rewound) : Draws c samples { g with feed := feed } := by
  have hsamples : feed.rewound.samples = g.feed.rewound.samples := congrArg Feed.samples hfeed
  exact ⟨h.counter_eq, (congrArg Array.toList hsamples).trans h.samples_eq, h.held⟩

theorem Draws.withPhase (h : Draws c samples g) {phase : Phase Sample}
    (hheld : ∀ s, phase = .ready s → s ∈ samples) : Draws c samples { g with phase := phase } :=
  ⟨h.counter_eq, h.samples_eq, hheld⟩

theorem returns_read : Returns (Draws c samples) (· ∈ samples) read := by
  intro g h
  have hfeed : (after Feed.next g.feed).rewound = g.feed.rewound := Feed.keeps_next g.feed rfl
  rcases hnext : g.feed.next with ⟨s, feed⟩ | ⟨fault, feed⟩
  · rw [after_of_ok hnext] at hfeed
    have hread : read g = .ok s { g with feed := feed } := by rw [read, hnext]
    rw [hread]
    exact ⟨h.withFeed hfeed, h.samples_eq ▸ Feed.mem_of_next hnext⟩
  · rw [after_of_error hnext] at hfeed
    have hread : read g = .error (.source fault) { g with feed := feed } := by rw [read, hnext]
    rw [hread]
    exact h.withFeed hfeed

theorem draws_pull : Keeps (Draws c samples) pull := by
  refine Keeps.get_bind fun g _ => Keeps.ite ?_ (Keeps.modify fun g h => h.withPhase nofun)
  refine returns_read.bind_keeps fun s hs => Keeps.modify fun g h => h.withPhase fun a ha => ?_
  split at ha
  · exact absurd ha (by simp)
  · rwa [← Phase.ready.inj ha]

theorem draws_openBucket : Keeps (Draws c samples) openBucket :=
  keeps_of_setEnd fun _ _ h => ⟨h.counter_eq, h.samples_eq, h.held⟩

theorem draws_fill : Keeps (Draws c samples) fill := by
  refine Keeps.get_bind fun g _ => ?_
  rcases g.phase with _ | s | _
  · exact draws_pull.bind fun _ => draws_openBucket
  · exact Keeps.pure ()
  · exact Keeps.pure ()

theorem draws_hasValue : Keeps (Draws c samples) hasValue :=
  draws_fill.bind fun _ => Keeps.get_bind fun _ _ => Keeps.pure _

theorem draws_openNext : Keeps (Draws c samples) openNext :=
  draws_fill.bind fun _ => draws_openBucket

theorem returns_count {current : Sample} (hcurrent : current ∈ samples) :
    Returns (Draws c samples) (IsCounted c samples) (count c current) := by
  refine returns_read.bind fun next hnext => Returns.get_bind fun g hg => ?_
  by_cases hle : next.time ≤ current.time
  · rw [checkOrder, if_pos hle]
    exact Returns.throw _
  · have hlt : current.time < next.time := Int64.not_le.mp hle
    rw [checkOrder_of_lt hlt]
    refine Returns.bind_of_keeps (Keeps.set (hg.withPhase fun s hs => ?_)) fun _ => ?_
    · split at hs
      · rwa [← Phase.ready.inj hs]
      · exact absurd hs (by simp)
    · rcases hdelta : c.delta current next with fault | amount
      · exact Returns.throw fault
      · exact Returns.pure ⟨⟨current, next⟩, hcurrent, hnext, hlt, hdelta⟩

/-- Whatever was asked before, a value is counted between two samples in order. -/
theorem returns_nextValue : Returns (Draws c samples) (IsCounted c samples) nextValue := by
  refine Returns.bind_of_keeps draws_hasValue fun more => Returns.get_bind fun g hg => ?_
  refine Returns.ite ?_ (Returns.throw _)
  rcases hphase : g.phase with _ | current | _
  · exact Returns.throw _
  · rw [hg.counter_eq]
    exact returns_count (hg.held current hphase)
  · exact Returns.throw _

theorem draws_reposition (time : Word) : Keeps (Draws c samples) (reposition time) := by
  intro g h
  have hfeed : (after (Feed.seek time) g.feed).rewound = g.feed.rewound :=
    Feed.keeps_seek time g.feed rfl
  rcases hseek : Feed.seek time g.feed with ⟨_, feed⟩ | ⟨fault, feed⟩
  · rw [after_of_ok hseek] at hfeed
    rw [after_of_ok (reposition_of_ok hseek)]
    exact (h.withFeed hfeed).withPhase fun current hphase => by cases hphase
  · rwa [after_of_error (reposition_of_error hseek)]

theorem draws_seek (time : Word) : Keeps (Draws c samples) (seek time) :=
  keeps_seek_of_reposition draws_reposition time

/-- Whatever was asked before, a point is the statistic of amounts that are counted between two
samples in order. -/
theorem sums_of_nextPoint {r r' : Resampler Grid} (h : Draws c samples r.cursor)
    (requests : List Request) {point : Point}
    (hpoint : (r.handleAll requests).nextPoint = .ok point r') :
    r.statistic.Sums (IsCounted c samples) point.value := by
  have hreached := Resampler.keeps_handleAll draws_hasValue returns_nextValue.keeps draws_openNext
    draws_seek h requests
  exact (Resampler.returns_nextPoint draws_hasValue returns_nextValue draws_openNext
    r.statistic).of_ok hreached hpoint

end Grid

end TimeBuckets
