/-
Which samples a counter compares.

* `IsNext` — the second sample of a pair is the first one behind the other that is later;
* `Feed.Standing` — a sample that was read, and nothing later was read since;
* `mem_pairs_of_isNext` — among samples in order only neighbours follow each other;
* `Grid.Compares`, `Runs.Compares`, `Shape.Compares` — a cursor that counts, and holds only what
  stands;
* `Shape.returns_nextValue` — every value is an amount counted from a sample to the one that follows
  it;
* `Stack.compares`, `Shape.steady_compares` — so it is after any calls to a fresh cursor.

Samples may come in any order, and reads and jumps may fail.  A sample that is not later than the
one that is held is refused, and so is whatever comes behind it, until a later one is read.
-/
import TimeBuckets.Proofs.Counting
import TimeBuckets.Proofs.Midnights

namespace TimeBuckets

variable {c : Counter} {samples : List Sample} {pair : Pair}

/-- An unread cursor holds nothing. -/
theorem Phase.unread_elim {α : Type} {P : α → Prop} (held : α) (h : unread = ready held) :
    P held :=
  absurd h.symm (Phase.ready_ne_unread held)

/-- A spent cursor holds nothing. -/
theorem Phase.spent_elim {α : Type} {P : α → Prop} (held : α) (h : spent = ready held) : P held :=
  absurd h.symm (Phase.ready_ne_spent held)

/-! ### Samples that follow each other -/

/-- The second sample of the pair is the first one behind the first that is later than it. -/
def IsNext (samples : List Sample) (pair : Pair) : Prop :=
  ∃ front refused rest,
    samples = front ++ pair.previous :: (refused ++ pair.current :: rest) ∧
      (∀ s ∈ refused, s.time ≤ pair.previous.time) ∧ pair.Ordered

theorem IsNext.ordered (h : IsNext samples pair) : pair.Ordered := by
  obtain ⟨-, -, -, -, -, hordered⟩ := h
  exact hordered

/-- Neighbours are next to each other. -/
theorem mem_pairs_append (a b : Sample) (rest : List Sample) :
    ∀ front, ⟨a, b⟩ ∈ pairs (front ++ a :: b :: rest) := by
  intro front
  induction front with
  | nil => exact .head _
  | cons s front ih =>
    rcases front with _ | ⟨s', front⟩
    · exact .tail _ (.head _)
    · exact .tail _ ih

/-- Among samples in order no sample is refused. -/
theorem mem_pairs_of_isNext (hinc : Increasing samples) (h : IsNext samples pair) :
    pair ∈ pairs samples := by
  obtain ⟨front, refused, rest, rfl, hrefused, -⟩ := h
  rcases refused with _ | ⟨s, refused⟩
  · exact mem_pairs_append pair.previous pair.current rest front
  · have hbehind := (List.pairwise_append.mp hinc).2.1
    have hlater : pair.previous.time < s.time := (List.pairwise_cons.mp hbehind).1 s (.head _)
    exact absurd hlater (Int64.not_lt.mpr (hrefused s (.head _)))

/-- The amount is counted from a sample to the one that follows it. -/
def IsAmount (c : Counter) (samples : List Sample) (amount : Float) : Prop :=
  ∃ pair, IsNext samples pair ∧ c.delta pair.previous pair.current = .ok amount

namespace Feed

variable {f f' : Feed} {s next : Sample}

/-- The sample was read, and nothing later was read since. -/
def Standing (f : Feed) (s : Sample) : Prop :=
  ∃ front refused, f.samples.toList = front ++ s :: (refused ++ f.remaining) ∧
    ∀ a ∈ refused, a.time ≤ s.time

theorem next_ok (h : f.next = .ok s f') : f' = f.advanced ∧ f.remaining = s :: f'.remaining := by
  rcases f.next_cases with ⟨a, rest, hremaining, hnext⟩ | ⟨fault, hnext, -⟩
  · cases hnext.symm.trans h
    exact ⟨rfl, by rw [remaining_advanced, hremaining, List.tail_cons]⟩
  · cases hnext.symm.trans h

/-- What was read last stands. -/
theorem standing_of_next (h : f.next = .ok s f') : f'.Standing s := by
  obtain ⟨rfl, hremaining⟩ := next_ok h
  refine ⟨f.samples.toList.take f.position, [], ?_, nofun⟩
  rw [List.nil_append, ← hremaining]
  exact (List.take_append_drop f.position f.samples.toList).symm

/-- A later sample follows the one that stands. -/
theorem Standing.isNext (hs : f.Standing s) (h : f.next = .ok next f')
    (hlt : s.time < next.time) : IsNext f.samples.toList ⟨s, next⟩ := by
  obtain ⟨front, refused, hsamples, hrefused⟩ := hs
  obtain ⟨-, hremaining⟩ := next_ok h
  rw [hremaining] at hsamples
  exact ⟨front, refused, f'.remaining, hsamples, hrefused, hlt⟩

/-- A sample that is not later does not replace the one that stands. -/
theorem Standing.refuse (hs : f.Standing s) (h : f.next = .ok next f')
    (hle : next.time ≤ s.time) : f'.Standing s := by
  obtain ⟨front, refused, hsamples, hrefused⟩ := hs
  obtain ⟨rfl, hremaining⟩ := next_ok h
  rw [hremaining, List.append_cons refused] at hsamples
  refine ⟨front, refused ++ [next], hsamples, fun a ha => ?_⟩
  rcases List.mem_append.mp ha with ha | ha
  · exact hrefused a ha
  · rwa [List.mem_singleton.mp ha]

end Feed

/-! ### Grids -/

namespace Grid

variable {g : Grid}

/-- The grid counts over these samples, and what it holds stands. -/
structure Compares (c : Counter) (samples : List Sample) (g : Grid) : Prop where
  counter_eq : g.counter = some c
  samples_eq : g.feed.samples.toList = samples
  held : ∀ s, g.phase = .ready s → g.feed.Standing s

theorem Compares.withPhase (h : Compares c samples g) {phase : Phase Sample}
    (hheld : ∀ s, phase = .ready s → g.feed.Standing s) :
    Compares c samples { g with phase := phase } :=
  ⟨h.counter_eq, h.samples_eq, hheld⟩

theorem Compares.withBoundary (h : Compares c samples g) (last : Word) :
    Compares c samples { g with boundary := last } :=
  ⟨h.counter_eq, h.samples_eq, h.held⟩

/-- A read that fails changes nothing that is compared. -/
theorem Compares.missed (h : Compares c samples g) :
    Compares c samples { g with feed := g.feed.missed } :=
  ⟨h.counter_eq, h.samples_eq, h.held⟩

theorem Compares.advanced (h : Compares c samples g) {phase : Phase Sample}
    (hheld : ∀ s, phase = .ready s → g.feed.advanced.Standing s) :
    Compares c samples { g with feed := g.feed.advanced, phase := phase } :=
  ⟨h.counter_eq, h.samples_eq, hheld⟩

theorem compares_pull : Keeps (Compares c samples) pull := by
  intro g h
  rcases hmore : g.feed.hasNext with _ | _
  · rw [pull, after_get_bind, hmore]
    exact h.withPhase Phase.spent_elim
  · rw [pull, after_get_bind, hmore, if_pos rfl]
    rcases g.feed.next_cases with ⟨s, -, -, hnext⟩ | ⟨fault, hnext, -⟩
    · have hread : read g = .ok s { g with feed := g.feed.advanced } := by rw [read, hnext]
      rw [after_bind_of_ok hread]
      refine h.advanced fun a ha => ?_
      split at ha
      · cases ha
      · cases ha
        exact Feed.standing_of_next hnext
    · have hread : read g = .error (.source fault) { g with feed := g.feed.missed } := by
        rw [read, hnext]
      rw [after_of_error (bind_of_error hread)]
      exact h.missed

theorem compares_openBucket : Keeps (Compares c samples) openBucket :=
  keeps_of_setEnd fun _ last h => h.withBoundary last

theorem compares_fill : Keeps (Compares c samples) fill := by
  refine Keeps.get_bind fun g _ => ?_
  rcases g.phase with _ | s | _
  · exact compares_pull.bind fun _ => compares_openBucket
  · exact Keeps.pure ()
  · exact Keeps.pure ()

theorem compares_hasValue : Keeps (Compares c samples) hasValue :=
  compares_fill.bind fun _ => Keeps.get_bind fun _ _ => Keeps.pure _

theorem compares_openNext : Keeps (Compares c samples) openNext :=
  compares_fill.bind fun _ => compares_openBucket

/-- Counting from the held sample gives an amount, or leaves it held. -/
theorem count_of_compares (h : Compares c samples g) {current : Sample}
    (hphase : g.phase = .ready current) : match count c current g with
      | .ok amount g' => Compares c samples g' ∧ IsAmount c samples amount
      | .error _ g' => Compares c samples g' := by
  have hcurrent := h.held current hphase
  rcases g.feed.next_cases with ⟨next, -, -, hnext⟩ | ⟨fault, hnext, -⟩
  · have hread : read g = .ok next { g with feed := g.feed.advanced } := by rw [read, hnext]
    by_cases hle : next.time ≤ current.time
    · rw [count_of_disordered hread (if_pos hle)]
      refine h.advanced fun s hs => ?_
      cases hphase.symm.trans hs
      exact hcurrent.refuse hnext hle
    · have hlt : current.time < next.time := Int64.not_le.mp hle
      have hheld : Compares c samples (holding { g with feed := g.feed.advanced } next) := by
        refine h.advanced fun s hs => ?_
        split at hs
        · cases hs
          exact Feed.standing_of_next hnext
        · cases hs
      have hisNext : IsNext samples ⟨current, next⟩ := h.samples_eq ▸ hcurrent.isNext hnext hlt
      rw [count_of_ordered hread (checkOrder_of_lt hlt _)]
      rcases hdelta : c.delta current next with fault | amount
      · exact hheld
      · exact ⟨hheld, _, hisNext, hdelta⟩
  · have hread : read g = .error (.source fault) { g with feed := g.feed.missed } := by
      rw [read, hnext]
    rw [count_of_failed hread]
    exact h.missed

theorem returns_nextValue_of_compares :
    Returns (Compares c samples) (IsAmount c samples) nextValue := by
  refine Returns.bind_of_keeps compares_hasValue fun more g h => ?_
  rw [get_bind]
  rcases more with _ | _
  · exact h
  · rcases hphase : g.phase with _ | current | _
    · exact h
    · simp only [if_true, h.counter_eq]
      have hcount := count_of_compares h hphase
      rcases hrun : count c current g with ⟨amount, g'⟩ | ⟨fault, g'⟩
      · rwa [hrun] at hcount
      · rwa [hrun] at hcount
    · exact h

theorem compares_reposition (time : Word) : Keeps (Compares c samples) (reposition time) := by
  intro g h
  rcases hseek : Feed.seek time g.feed with ⟨_, feed⟩ | ⟨fault, feed⟩
  · obtain ⟨-, rfl⟩ := Feed.seek_ok hseek
    rw [after_of_ok (reposition_of_ok hseek)]
    exact ⟨h.counter_eq, h.samples_eq, Phase.unread_elim⟩
  · rwa [after_of_error (reposition_of_error hseek)]

theorem steady_compares : Steady (Compares c samples) where
  hasValue := compares_hasValue
  nextValue := returns_nextValue_of_compares.keeps
  openNext := compares_openNext
  seek := keeps_seek_of_reposition compares_reposition
  reposition := compares_reposition
  setWidth width g h := by
    show Compares c samples (setWidth width g)
    rw [setWidth]
    split
    · exact ⟨h.counter_eq, h.samples_eq, h.held⟩
    · exact h
  setEnd last _ h := h.withBoundary last

end Grid

/-! ### Runs -/

namespace Runs

variable {r : Runs}

/-- The cursor counts over these samples, and the second sample of what it holds follows the first
one and stands. -/
structure Compares (c : Counter) (samples : List Sample) (r : Runs) : Prop where
  counter_eq : r.counter = some c
  samples_eq : r.feed.samples.toList = samples
  held : ∀ pair, r.phase = .ready pair → IsNext samples pair ∧ r.feed.Standing pair.current

theorem Compares.withPhase (h : Compares c samples r) {phase : Phase Pair}
    (hheld : ∀ pair, phase = .ready pair → IsNext samples pair ∧
      r.feed.Standing pair.current) : Compares c samples { r with phase := phase } :=
  ⟨h.counter_eq, h.samples_eq, hheld⟩

theorem Compares.missed (h : Compares c samples r) :
    Compares c samples { r with feed := r.feed.missed } :=
  ⟨h.counter_eq, h.samples_eq, h.held⟩

theorem Compares.advanced (h : Compares c samples r) {phase : Phase Pair}
    (hheld : ∀ pair, phase = .ready pair → IsNext samples pair ∧
      r.feed.advanced.Standing pair.current) :
    Compares c samples { r with feed := r.feed.advanced, phase := phase } :=
  ⟨h.counter_eq, h.samples_eq, hheld⟩

/-- Reading on from a sample that stands, which is the second one of what is held. -/
theorem compares_pairWith (h : Compares c samples r) {previous : Sample}
    (hprevious : r.feed.Standing previous)
    (hheld : ∀ pair, r.phase = .ready pair → pair.current = previous) :
    Compares c samples (after (pairWith previous) r) := by
  rcases r.feed.next_cases with ⟨next, -, -, hnext⟩ | ⟨fault, hnext, -⟩
  · have hread : read r = .ok next { r with feed := r.feed.advanced } := by rw [read, hnext]
    rw [pairWith, after_bind_of_ok hread, after, get_bind]
    by_cases hle : next.time ≤ previous.time
    · rw [checkOrder, if_pos hle]
      refine h.advanced fun pair hpair => ⟨(h.held pair hpair).1, ?_⟩
      rw [hheld pair hpair]
      exact hprevious.refuse hnext hle
    · have hlt : previous.time < next.time := Int64.not_le.mp hle
      rw [checkOrder_of_lt hlt]
      refine h.advanced fun pair hpair => ?_
      cases hpair
      rw [← h.samples_eq]
      exact ⟨hprevious.isNext hnext hlt, Feed.standing_of_next hnext⟩
  · have hread : read r = .error (.source fault) { r with feed := r.feed.missed } := by
      rw [read, hnext]
    rw [pairWith, after_of_error (bind_of_error hread)]
    exact h.missed

theorem compares_advance : Keeps (Compares c samples) advance := by
  intro r h
  rw [advance, after_get_bind]
  rcases hphase : r.phase with _ | pair | _
  · exact h
  · rcases r.feed.hasNext with _ | _
    · exact h.withPhase Phase.spent_elim
    · refine compares_pairWith h (h.held pair hphase).2 fun other hother => ?_
      cases hphase.symm.trans hother
      rfl
  · exact h

theorem compares_skip (n : Nat) : Keeps (Compares c samples) (skip n) := by
  induction n with
  | zero => exact Keeps.pure ()
  | succ n ih =>
    refine Keeps.get_bind fun r h => ?_
    rcases hphase : r.phase with _ | pair | _
    · exact Keeps.pure ()
    · refine (keeps_contributed pair).bind fun _ =>
        Keeps.ite (Keeps.set ?_) (compares_advance.bind fun _ => ih)
      exact ⟨h.counter_eq, h.samples_eq, fun other hother => h.held other (hphase.trans hother)⟩
    · exact Keeps.pure ()

theorem compares_skipIdle : Keeps (Compares c samples) skipIdle :=
  Keeps.get_bind fun r _ => compares_skip (r.feed.left + 1)

theorem compares_readFirst : Keeps (Compares c samples) readFirst := by
  intro r h
  have hspent : Compares c samples { r with phase := .spent } := h.withPhase Phase.spent_elim
  rw [readFirst, after_modify_bind, after_get_bind]
  rcases hmore : r.feed.hasNext with _ | _
  · exact hspent
  · rcases r.feed.next_cases with ⟨first, -, -, hnext⟩ | ⟨fault, hnext, -⟩
    · have hread : read { r with phase := .spent }
          = .ok first { r with feed := r.feed.advanced, phase := .spent } := by
        simp only [read, hnext]
      have hfirst : Compares c samples { r with feed := r.feed.advanced, phase := .spent } :=
        h.advanced Phase.spent_elim
      rw [if_pos rfl, after_bind_of_ok hread, after_get_bind]
      rcases r.feed.advanced.hasNext with _ | _
      · exact hfirst
      · exact compares_pairWith hfirst (Feed.standing_of_next hnext) Phase.spent_elim
    · have hread : read { r with phase := .spent }
          = .error (.source fault) { r with feed := r.feed.missed, phase := .spent } := by
        simp only [read, hnext]
      rw [if_pos rfl, after_of_error (bind_of_error hread)]
      exact hspent.missed

theorem compares_fill : Keeps (Compares c samples) fill := by
  refine Keeps.get_bind fun r _ => ?_
  rcases r.phase with _ | pair | _
  · exact compares_readFirst.bind fun _ => compares_skipIdle
  · exact Keeps.pure ()
  · exact Keeps.pure ()

theorem compares_hasValue : Keeps (Compares c samples) hasValue :=
  compares_fill.bind fun _ => keeps_holdsLive

/-- The amount of a pair is the one that is counted between its samples. -/
theorem returns_contributed (hpair : IsNext samples pair) :
    Returns (Compares c samples) (IsAmount c samples) (contributed pair) := by
  intro r h
  rw [contributed, h.counter_eq, contribution]
  rcases hdelta : c.delta pair.previous pair.current with fault | amount
  · exact h
  · exact ⟨h, pair, hpair, hdelta⟩

/-- The value is that of the pair which was held. -/
theorem returns_nextValue_of_compares :
    Returns (Compares c samples) (IsAmount c samples) nextValue := by
  refine Returns.bind_of_keeps compares_hasValue fun more => Returns.get_bind fun r h => ?_
  refine Returns.ite ?_ (Returns.throw _)
  rcases hphase : r.phase with _ | pair | _
  · exact Returns.throw _
  · exact (returns_contributed (h.held pair hphase).1).bind fun _ hamount =>
      Returns.bind_of_keeps compares_advance fun _ => Returns.pure hamount
  · exact Returns.throw _

theorem compares_reposition (time : Word) : Keeps (Compares c samples) (reposition time) := by
  intro r h
  rcases hseek : Feed.seek time r.feed with ⟨_, feed⟩ | ⟨fault, feed⟩
  · obtain ⟨-, rfl⟩ := Feed.seek_ok hseek
    rw [after_of_ok (reposition_of_ok hseek)]
    exact ⟨h.counter_eq, h.samples_eq, Phase.unread_elim⟩
  · rwa [after_of_error (reposition_of_error hseek)]

theorem steady_compares : Steady (Compares c samples) where
  hasValue := compares_hasValue
  nextValue := returns_nextValue_of_compares.keeps
  openNext := compares_fill.bind fun _ => compares_skipIdle
  seek := compares_reposition
  reposition := compares_reposition
  setWidth _ _ h := h
  setEnd _ _ h := h

end Runs

/-! ### Cursors of every shape -/

namespace CalendarCursor

variable {σ : Type} {P : σ → Prop} {Q : Float → Prop}

theorem returns_below {α : Type} {R : α → Prop} {run : EStateM Fault σ α} (h : Returns P R run) :
    Returns (fun c : CalendarCursor σ => P c.inner) R (below run) := by
  intro c hc
  have hinner := h c.inner hc
  rcases hrun : run c.inner with ⟨a, inner⟩ | ⟨fault, inner⟩
  · rw [hrun] at hinner
    rwa [below_of_ok hrun]
  · rw [hrun] at hinner
    rwa [below_of_error hrun]

variable [BucketCursor σ]

/-- The values of a calendar are those of the cursor below. -/
theorem returns_nextValue (h : Steady P)
    (hnext : Returns P Q (ValueStream.nextValue (σ := σ))) :
    Returns (fun c : CalendarCursor σ => P c.inner) Q nextValue := by
  refine Returns.bind_of_keeps (steady_inner h).hasValue fun more => ?_
  exact Returns.ite (returns_below hnext) (Returns.get_bind fun c _ => Returns.throw _)

end CalendarCursor

namespace Shape

/-- The cursor counts over these samples, and holds only what stands. -/
def Compares (c : Counter) (samples : List Sample) : (shape : Shape) → shape.State → Prop
  | grid => Grid.Compares c samples
  | runs => Runs.Compares c samples
  | calendar inner => fun cursor : CalendarCursor inner.State =>
    inner.Compares c samples cursor.inner

theorem steady_compares (shape : Shape) : Steady (shape.Compares c samples) := by
  induction shape with
  | grid => exact Grid.steady_compares
  | runs => exact Runs.steady_compares
  | calendar inner ih => exact CalendarCursor.steady_inner ih

theorem returns_nextValue (shape : Shape) : Returns (shape.Compares c samples)
    (IsAmount c samples) (ValueStream.nextValue (σ := shape.State)) := by
  induction shape with
  | grid => exact Grid.returns_nextValue_of_compares
  | runs => exact Runs.returns_nextValue_of_compares
  | calendar inner ih => exact CalendarCursor.returns_nextValue inner.steady_compares ih

end Shape

/-- A fresh cursor holds nothing. -/
theorem Stack.compares {feed : Feed} {cursor : AnyCursor} (h : Stack feed (some c) cursor) :
    cursor.shape.Compares c feed.samples.toList cursor.cursor := by
  induction h with
  | @grid width offset g h =>
    rw [Grid.make] at h
    split at h
    · cases h
      exact ⟨rfl, rfl, Phase.unread_elim⟩
    · cases h
  | runs => exact ⟨rfl, rfl, Phase.unread_elim⟩
  | calendar unit zone h ih => exact ih

end TimeBuckets
