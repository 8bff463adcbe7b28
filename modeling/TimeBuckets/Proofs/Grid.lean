/-
Single operations of a grid.

* `Grid.Ahead` — a grid with certain values ahead, the first of which is held;
* `Grid.started`, `Grid.ahead_started` — reading ahead leaves what the remaining samples contribute
  ahead;
* `Grid.hasValue_of_ahead`, `Grid.nextValue_of_ahead`, `Grid.openBucket_of_ahead` — what is asked,
  taken and opened, in terms of the values ahead.

A grid that counts holds a sample only if another one follows, since the last sample alone has no
value: this is the field `followed`, which makes a held sample and a value that is ahead the same
thing.  What an operation gives is always the old grid, or the one after reading ahead, with its
boundary replaced, so that it can be read off which fields stay.
-/
import TimeBuckets.Proofs.Alignment
import TimeBuckets.Proofs.Operation
import TimeBuckets.Proofs.Values

namespace TimeBuckets

namespace Grid

variable {g : Grid} {v : Timed} {values : List Timed}

/-! ### Values ahead -/

/-- The samples that are held or still to be read. -/
def stock (g : Grid) : List Sample :=
  match g.phase with
  | .unread => g.feed.remaining
  | .ready s => s :: g.feed.remaining
  | .spent => []

/-- The grid has begun to read, reads without faults, and has these values ahead. -/
structure Ahead (g : Grid) (values : List Timed) : Prop where
  reliable : g.feed.readFaults = []
  begun : g.phase ≠ .unread
  increasing : Increasing g.stock
  followed : g.phase.isReady = true → g.counter.isSome = true → g.feed.remaining ≠ []
  ahead : valuesOf g.counter g.stock = values

theorem Ahead.setEnd (h : Ahead g values) (last : Word) :
    Ahead { g with boundary := last } values :=
  ⟨h.reliable, h.begun, h.increasing, h.followed, h.ahead⟩

theorem setWidth_of_pos {width : Word} (h : 0 < width) :
    g.setWidth width = { g with width := width, width_pos := h } := by
  rw [Grid.setWidth, dif_pos h]

theorem feed_setWidth (g : Grid) (width : Word) : (g.setWidth width).feed = g.feed := by
  rw [Grid.setWidth]
  split
  · rfl
  · rfl

/-- With nothing ahead, nothing is held. -/
theorem Ahead.phase_nil (h : Ahead g []) : g.phase = .spent := by
  have hahead := h.ahead
  have hfollowed := h.followed
  rcases hphase : g.phase with _ | s | _
  · exact absurd hphase h.begun
  · rw [stock, hphase] at hahead
    rw [hphase] at hfollowed
    rcases hcounter : g.counter with _ | c
    · rw [hcounter] at hahead
      exact absurd hahead (List.cons_ne_nil _ _)
    · rw [hcounter] at hahead hfollowed
      rcases hrem : g.feed.remaining with _ | ⟨s', rest⟩
      · exact absurd hrem (hfollowed rfl rfl)
      · rw [hrem] at hahead
        exact absurd hahead (List.cons_ne_nil _ _)
  · rfl

/-- The sample of the first value ahead is held. -/
theorem Ahead.phase_cons (h : Ahead g (v :: values)) :
    ∃ s, g.phase = .ready s ∧ s.time = v.time := by
  have hahead := h.ahead
  rcases hphase : g.phase with _ | s | _
  · exact absurd hphase h.begun
  · refine ⟨s, rfl, ?_⟩
    rw [stock, hphase] at hahead
    rcases hcounter : g.counter with _ | c
    · rw [hcounter] at hahead
      rw [← (List.cons.inj hahead).1]
    · rw [hcounter] at hahead
      rcases hrem : g.feed.remaining with _ | ⟨s', rest⟩
      · rw [hrem] at hahead
        exact absurd hahead.symm (List.cons_ne_nil _ _)
      · rw [hrem] at hahead
        rw [← (List.cons.inj hahead).1]
        rfl
  · rw [stock, hphase] at hahead
    rcases hcounter : g.counter with _ | c
    · rw [hcounter] at hahead
      exact absurd hahead.symm (List.cons_ne_nil _ _)
    · rw [hcounter] at hahead
      exact absurd hahead.symm (List.cons_ne_nil _ _)

theorem Ahead.length_le (h : Ahead g values) : values.length ≤ pending g := by
  have hlen : values.length ≤ g.stock.length := by
    rw [← h.ahead]
    exact length_valuesOf_le g.counter g.stock
  rw [stock] at hlen
  rw [pending]
  rcases hphase : g.phase with _ | s | _
  · exact absurd hphase h.begun
  · rw [hphase] at hlen
    simpa [Feed.left_eq] using hlen
  · rw [hphase] at hlen
    exact hlen

/-! ### Reading ahead -/

theorem read_of_no_fault {s : Sample} {rest : List Sample} (hnone : g.feed.nextFault? = none)
    (h : g.feed.remaining = s :: rest) : read g = .ok s { g with feed := g.feed.advanced } := by
  rw [read, Feed.next_of_no_fault hnone h]

theorem read_of_remaining {s : Sample} {rest : List Sample} (hf : g.feed.readFaults = [])
    (h : g.feed.remaining = s :: rest) : read g = .ok s { g with feed := g.feed.advanced } :=
  read_of_no_fault (Feed.nextFault?_of_reliable hf) h

/-- What is held after reading ahead: a counter holds no sample alone. -/
def pulled (g : Grid) : Phase Sample :=
  match g.feed.remaining with
  | [] => .spent
  | s :: rest => if g.counter.isSome && rest.isEmpty then .spent else .ready s

/-- The grid after reading ahead without a fault. -/
def started (g : Grid) : Grid := { g with feed := g.feed.pulled, phase := g.pulled }

/-- Reading ahead takes what is next, unless the read of a sample that is left fails. -/
theorem pull_of_no_fault (hnone : g.feed.hasNext = true → g.feed.nextFault? = none) :
    pull g = .ok () g.started := by
  rw [Feed.hasNext_eq] at hnone
  rw [pull, get_bind, started, pulled, Feed.pulled, Feed.hasNext_eq]
  rcases hrem : g.feed.remaining with _ | ⟨s, rest⟩
  · rfl
  · have hnext : g.feed.advanced.hasNext = !rest.isEmpty := by
      rw [Feed.hasNext_eq, Feed.remaining_advanced, hrem, List.tail_cons]
    rw [hrem] at hnone
    show (read >>= _) g = _
    rw [bind_of_ok (read_of_no_fault (hnone rfl) hrem)]
    show EStateM.Result.ok () { g with
      feed := g.feed.advanced
      phase := if g.counter.isSome && !g.feed.advanced.hasNext then Phase.spent else .ready s } = _
    rw [hnext, Bool.not_not]
    rfl

theorem pull_eq (hf : g.feed.readFaults = []) :
    pull g = .ok () g.started :=
  pull_of_no_fault fun _ => Feed.nextFault?_of_reliable hf

/-- Reading ahead holds the first sample that is left, or nothing if there is none or if a counter
would hold it alone. -/
theorem started_cases (g : Grid) :
    (g.started.phase = .spent ∧
      (g.feed.remaining = [] ∨ g.counter.isSome = true ∧ ∃ s, g.feed.remaining = [s])) ∨
    ∃ s rest, g.feed.remaining = s :: rest ∧ g.started.phase = .ready s ∧
      g.started.feed.remaining = rest ∧ (g.counter.isSome = true → rest ≠ []) := by
  have hnext := Feed.remaining_pulled g.feed
  rcases hrem : g.feed.remaining with _ | ⟨s, rest⟩
  · refine Or.inl ⟨?_, Or.inl rfl⟩
    rw [started, pulled, hrem]
  · rw [hrem, List.tail_cons] at hnext
    by_cases hlone : (g.counter.isSome && rest.isEmpty) = true
    · obtain ⟨hcounts, hempty⟩ := Bool.and_eq_true_iff.mp hlone
      refine Or.inl ⟨?_, Or.inr ⟨hcounts, s, by rw [List.isEmpty_iff.mp hempty]⟩⟩
      rw [started, pulled, hrem]
      exact if_pos hlone
    · refine Or.inr ⟨s, rest, rfl, ?_, hnext, fun hcounts hempty => hlone ?_⟩
      · rw [started, pulled, hrem]
        exact if_neg hlone
      · rw [hcounts, hempty]
        rfl

theorem begun_of_started (g : Grid) : g.started.phase ≠ .unread := by
  rcases g.started_cases with ⟨hphase, -⟩ | ⟨s, rest, -, hphase, -⟩
  · rw [hphase]
    exact Phase.spent_ne_unread
  · rw [hphase]
    exact Phase.ready_ne_unread s

/-- What is held after reading ahead, together with what is left, is what was left before, unless
this was one sample alone and a counter has left it out. -/
theorem stock_started_cases (g : Grid) :
    g.started.stock = g.feed.remaining ∨
      g.counter.isSome = true ∧ (∃ s, g.feed.remaining = [s]) ∧ g.started.stock = [] := by
  rcases g.started_cases with ⟨hphase, hcause⟩ | ⟨s, rest, hrem, hphase, hrest, -⟩
  · have hstock : g.started.stock = [] := by rw [stock, hphase]
    rw [hstock]
    exact hcause.imp Eq.symm fun h => ⟨h.1, h.2, rfl⟩
  · refine Or.inl ?_
    rw [stock, hphase, hrest, hrem]

theorem stock_started_suffix (g : Grid) : g.started.stock <:+ g.feed.remaining := by
  rcases g.stock_started_cases with hstock | ⟨-, -, hstock⟩
  · exact ⟨[], hstock⟩
  · rw [hstock]
    exact List.nil_suffix

/-- What is held and what is then left contribute what was left before. -/
theorem ahead_started (hf : g.feed.readFaults = []) (hinc : Increasing g.feed.remaining) :
    Ahead g.started (valuesOf g.counter g.feed.remaining) where
  reliable := (Feed.readFaults_pulled g.feed).trans hf
  begun := g.begun_of_started
  increasing := hinc.sublist g.stock_started_suffix.sublist
  followed hready hcounts := by
    rcases g.started_cases with ⟨hphase, -⟩ | ⟨s, rest, -, -, hrest, hne⟩
    · rw [hphase] at hready
      cases hready
    · rw [hrest]
      exact hne hcounts
  ahead := by
    show valuesOf g.counter g.started.stock = _
    rcases g.stock_started_cases with hstock | ⟨hcounts, ⟨s, hrem⟩, hstock⟩
    · rw [hstock]
    -- a sample alone contributes nothing to a counter
    · obtain ⟨c, hcounter⟩ := Option.isSome_iff_exists.mp hcounts
      rw [hstock, hrem, hcounter]
      rfl

theorem remaining_suffix (h : g.phase ≠ .spent) : g.feed.remaining <:+ g.stock := by
  rw [stock]
  rcases hphase : g.phase with _ | s | _
  · exact List.suffix_refl _
  · exact List.suffix_cons s _
  · exact absurd hphase h

/-- The bucket of the first value ahead is opened, if words can hold its ends. -/
theorem openBucket_of_ahead (h : Ahead g values)
    (hfits : ∀ v ∈ values.head?, Fits g.width g.offset v.time) :
    ∃ last, openBucket g = .ok () { g with boundary := last } ∧
      ∀ v ∈ values.head?, last.toInt
        = startOf g.width.toInt g.offset.toInt v.time.toInt + g.width.toInt := by
  rcases values with _ | ⟨v, values⟩
  · have hopen : openBucket g = .ok () g := by rw [openBucket, h.phase_nil]
    exact ⟨g.boundary, hopen, nofun⟩
  · obtain ⟨s, hphase, htime⟩ := h.phase_cons
    obtain ⟨last, hlast, heq⟩ := bucketEnd_of_fits (hfits v rfl)
    refine ⟨last, ?_, ?_⟩
    · simp only [openBucket, hphase, htime, hlast]
    · intro w hw
      rw [List.head?_cons, Option.mem_some_iff] at hw
      rw [← hw, heq]

theorem fill_of_begun (h : g.phase ≠ .unread) : fill g = .ok () g := by
  rw [fill, get_bind]
  rcases hphase : g.phase with _ | s | _
  · exact absurd hphase h
  · rfl
  · rfl

/-- The first reading ahead opens the bucket of the first value. -/
theorem fill_of_unread (hphase : g.phase = .unread) (hf : g.feed.readFaults = [])
    (hinc : Increasing g.feed.remaining)
    (hfits : ∀ v ∈ (valuesOf g.counter g.feed.remaining).head?, Fits g.width g.offset v.time) :
    ∃ last, fill g = .ok () { g.started with boundary := last } ∧
      ∀ v ∈ (valuesOf g.counter g.feed.remaining).head?, last.toInt
        = startOf g.width.toInt g.offset.toInt v.time.toInt + g.width.toInt := by
  obtain ⟨last, hopen, hlast⟩ := openBucket_of_ahead (ahead_started hf hinc) hfits
  refine ⟨last, ?_, hlast⟩
  rw [fill, get_bind, hphase]
  exact (bind_of_ok (pull_eq hf)).trans hopen

/-- Opening the next bucket opens that of the first value ahead, whether anything was read before
or not. -/
theorem openNext_of_ahead (h : Ahead g values)
    (hfits : ∀ v ∈ values.head?, Fits g.width g.offset v.time) :
    ∃ last, openNext g = .ok () { g with boundary := last } ∧
      ∀ v ∈ values.head?, last.toInt
        = startOf g.width.toInt g.offset.toInt v.time.toInt + g.width.toInt := by
  obtain ⟨last, hopen, hlast⟩ := openBucket_of_ahead h hfits
  exact ⟨last, (bind_of_ok (fill_of_begun h.begun)).trans hopen, hlast⟩

theorem openNext_of_unread (hphase : g.phase = .unread) (hf : g.feed.readFaults = [])
    (hinc : Increasing g.feed.remaining)
    (hfits : ∀ v ∈ (valuesOf g.counter g.feed.remaining).head?, Fits g.width g.offset v.time) :
    ∃ last, openNext g = .ok () { g.started with boundary := last } ∧
      ∀ v ∈ (valuesOf g.counter g.feed.remaining).head?, last.toInt
        = startOf g.width.toInt g.offset.toInt v.time.toInt + g.width.toInt := by
  obtain ⟨last, hfill, hlast⟩ := fill_of_unread hphase hf hinc hfits
  obtain ⟨last', hopen, hlast'⟩ := openBucket_of_ahead ((ahead_started hf hinc).setEnd last) hfits
  exact ⟨last', (bind_of_ok hfill).trans hopen, hlast'⟩

/-! ### Asking, taking and opening -/

/-- The bucket has a value if the first value ahead is before the boundary. -/
theorem hasValue_of_ahead (h : Ahead g values) :
    hasValue g = .ok (values.head?.any fun v => v.time < g.boundary) g := by
  rw [hasValue, bind_of_ok (fill_of_begun h.begun), get_bind]
  rcases values with _ | ⟨v, values⟩
  · rw [h.phase_nil]
    rfl
  · obtain ⟨s, hphase, htime⟩ := h.phase_cons
    rw [hphase, List.head?_cons, Option.any_some, ← htime]
    rfl

/-- The grid holds a sample from now on, unless none is left behind it. -/
def holding (g : Grid) (s : Sample) : Grid :=
  { g with phase := if g.feed.hasNext then .ready s else .spent }

theorem holding_ne_unread (g : Grid) (s : Sample) : (g.holding s).phase ≠ .unread := by
  show (if g.feed.hasNext then Phase.ready s else .spent) ≠ .unread
  split
  · exact Phase.ready_ne_unread s
  · exact Phase.spent_ne_unread

section Count

variable {c : Counter} {s s' : Sample} {g' : Grid}

/-- Of two samples in order, the later one is held from then on, whether the amount can be told or
not. -/
theorem count_of_ordered (hread : read g = .ok s' g')
    (horder : checkOrder s s' g'.text = .ok ()) :
    count c s g = match c.delta s s' with
      | .ok amount => .ok amount (g'.holding s')
      | .error fault => .error fault (g'.holding s') := by
  rw [count, bind_of_ok hread, get_bind, horder, holding]
  rcases c.delta s s' with fault | amount
  · rfl
  · rfl

/-- Of two samples that are not in order, the earlier one stays held. -/
theorem count_of_disordered {fault : Fault} (hread : read g = .ok s' g')
    (horder : checkOrder s s' g'.text = .error fault) : count c s g = .error fault g' := by
  rw [count, bind_of_ok hread, get_bind, horder]
  rfl

theorem count_of_failed {fault : Fault} (hread : read g = .error fault g') :
    count c s g = .error fault g' := by
  rw [count, bind_of_error hread]

/-- Counting takes the pair of the held sample and the next one. -/
theorem count_of_remaining {rest : List Sample} (hcounter : g.counter = some c)
    (hf : g.feed.readFaults = []) (hrem : g.feed.remaining = s' :: rest) (hlt : s.time < s'.time) :
    count c s g =
      if c.clocks s s' then .ok (c.amount s s') g.started else .error .overflow g.started := by
  have hnext : g.feed.advanced.hasNext = !rest.isEmpty := by
    rw [Feed.hasNext_eq, Feed.remaining_advanced, hrem, List.tail_cons]
  have hstate : holding { g with feed := g.feed.advanced } s' = g.started := by
    have hfeed : g.feed.pulled = g.feed.advanced := by
      rw [Feed.pulled, Feed.hasNext_eq, hrem]
      rfl
    have hphase : g.pulled = if g.feed.advanced.hasNext then .ready s' else .spent := by
      rw [pulled, hrem, hcounter, hnext]
      rcases rest with _ | ⟨s'', rest⟩
      · rfl
      · rfl
    rw [holding, started, hfeed, hphase]
  rw [count_of_ordered (read_of_remaining hf hrem) (checkOrder_of_lt hlt _), hstate, Counter.delta]
  rcases c.clocks s s' with _ | _
  · rfl
  · rfl

end Count

theorem nextValue_of_none {g' : Grid} (h : hasValue g = .ok false g') :
    nextValue g = .error (.noValue g'.text) g' := by
  rw [nextValue, bind_of_ok h]
  rfl

theorem nextValue_of_failed {g' : Grid} {fault : Fault} (h : hasValue g = .error fault g') :
    nextValue g = .error fault g' := by
  rw [nextValue, bind_of_error h]

/-- Without a counter the held sample is the value, and the next one is read ahead. -/
theorem nextValue_of_plain {s : Sample} (hmore : hasValue g = .ok true g)
    (hphase : g.phase = .ready s) (hcounter : g.counter = none) :
    nextValue g = (do pull; return s.toReal) g := by
  rw [nextValue, bind_of_ok hmore, get_bind, if_pos rfl, hphase, hcounter]

/-- A counter reads the other sample of the pair. -/
theorem nextValue_of_counter {s : Sample} {c : Counter} (hmore : hasValue g = .ok true g)
    (hphase : g.phase = .ready s) (hcounter : g.counter = some c) : nextValue g = count c s g := by
  rw [nextValue, bind_of_ok hmore, get_bind, if_pos rfl, hphase, hcounter]

/-- Whether the time to the next sample can be told, if a counter asks for it. -/
def clocksNext (g : Grid) : Bool := (pairs g.stock).head?.all (Pair.clocked g.counter)

theorem clocksNext_of_clocked (h : Clocked g.counter g.stock) : g.clocksNext = true := by
  rw [clocksNext, Option.all_eq_true]
  exact fun pair hpair => h pair (List.mem_of_mem_head? hpair)

/-- Taking a value takes the first one ahead, or loses it if its amount cannot be told. -/
theorem nextValue_of_ahead (h : Ahead g (v :: values)) (hlt : v.time < g.boundary) :
    nextValue g = (if g.clocksNext then .ok v.value g.started else .error .overflow g.started) ∧
      Ahead g.started values := by
  have hmore : hasValue g = .ok true g := by
    rw [hasValue_of_ahead h, List.head?_cons, Option.any_some, decide_eq_true hlt]
  obtain ⟨s, hphase, htime⟩ := h.phase_cons
  have hinc := h.increasing
  have hahead := h.ahead
  rw [stock, hphase] at hinc hahead
  obtain ⟨hfirst, hinc'⟩ := List.pairwise_cons.mp hinc
  have hstarted := ahead_started h.reliable hinc'
  obtain hcounter | ⟨c, hcounter⟩ := Option.eq_none_or_eq_some g.counter
  -- without a counter the held sample is the value, and the next one is read ahead
  · rw [hcounter] at hahead hstarted
    obtain ⟨rfl, rfl⟩ := List.cons.inj hahead
    have hclocks : g.clocksNext = true := by
      rw [clocksNext, hcounter]
      exact Option.all_eq_true _ _ |>.mpr fun _ _ => rfl
    rw [if_pos hclocks]
    exact ⟨(nextValue_of_plain hmore hphase hcounter).trans (bind_of_ok (pull_eq h.reliable)),
      hstarted⟩
  -- a counter reads the other sample of the pair, which has to be there
  · rcases hrem : g.feed.remaining with _ | ⟨s', rest⟩
    · exact absurd hrem (h.followed (by rw [hphase]; rfl) (by rw [hcounter]; rfl))
    · rw [hcounter, hrem] at hahead hstarted
      rw [hrem] at hfirst
      obtain ⟨rfl, rfl⟩ := List.cons.inj hahead
      have hclocks : g.clocksNext = c.clocks s s' := by
        rw [clocksNext, stock, hphase, hrem, hcounter]
        rfl
      rw [hclocks]
      exact ⟨(nextValue_of_counter hmore hphase hcounter).trans
        (count_of_remaining hcounter h.reliable hrem (hfirst s' List.mem_cons_self)), hstarted⟩

/-- Where all times can be told, the first value ahead is taken. -/
theorem nextValue_of_clocked (h : Ahead g (v :: values)) (hclocked : Clocked g.counter g.stock)
    (hlt : v.time < g.boundary) :
    nextValue g = .ok v.value g.started ∧ Ahead g.started values ∧
      Clocked g.counter g.started.stock := by
  obtain ⟨hnext, hahead⟩ := nextValue_of_ahead h hlt
  rw [if_pos (clocksNext_of_clocked hclocked)] at hnext
  obtain ⟨s, hphase, -⟩ := h.phase_cons
  have hrest := remaining_suffix (hphase ▸ Phase.ready_ne_spent s)
  exact ⟨hnext, hahead, hclocked.of_suffix (g.stock_started_suffix.trans hrest)⟩

/-! ### Jumps -/

section Jumps

variable {time : Word} {feed : Feed}

theorem reposition_of_ok (h : Feed.seek time g.feed = .ok () feed) :
    reposition time g = .ok () { g with feed := feed, phase := .unread } := by
  rw [reposition, h]

/-- A jump that fails leaves the grid as it was. -/
theorem reposition_of_error {fault : SourceFault} (h : Feed.seek time g.feed = .error fault feed) :
    reposition time g = .error (.source fault) g := by
  rw [reposition, h, Feed.seek_error h]

end Jumps

end Grid

end TimeBuckets
