/-
Cursors that differ in what does not matter.

* `Feed.Alike` — feeds that have the same samples left, whatever was read from them before;
* `Grid.alike`, `Runs.alike` — cursors over such feeds that are equal otherwise behave alike;
* `CalendarCursor.alike` — calendars above cursors that behave alike do so too;
* `Grid.begins`, `Runs.begins` — neither does the boundary or the start of a run matter that is
  left over from before, once nothing is held.

The number of reads matters only where reads are set to fail, and no texts are compared.
-/
import TimeBuckets.Proofs.Agreement
import TimeBuckets.Proofs.Keeping
import TimeBuckets.Proofs.Runs

namespace TimeBuckets

/-! ### Feeds -/

namespace Feed

variable {f d : Feed}

/-- The feeds have the same samples left and never fail to read one. -/
structure Alike (f d : Feed) : Prop where
  samples_eq : f.samples = d.samples
  position_eq : f.position = d.position
  reliable : f.readFaults = []
  reliable' : d.readFaults = []

theorem Alike.remaining_eq (h : Alike f d) : f.remaining = d.remaining := by
  rw [remaining, remaining, h.samples_eq, h.position_eq]

theorem Alike.hasNext_eq (h : Alike f d) : f.hasNext = d.hasNext := by
  rw [Feed.hasNext_eq, Feed.hasNext_eq, h.remaining_eq]

theorem Alike.left_eq (h : Alike f d) : f.left = d.left := by
  rw [Feed.left_eq, Feed.left_eq, h.remaining_eq]

theorem Alike.advanced (h : Alike f d) : Alike f.advanced d.advanced :=
  ⟨h.samples_eq, congrArg (· + 1) h.position_eq, h.reliable, h.reliable'⟩

theorem Alike.pulled (h : Alike f d) : Alike f.pulled d.pulled := by
  rw [Feed.pulled, Feed.pulled, h.hasNext_eq]
  split
  · exact h.advanced
  · exact h

/-- Reading gives the same sample, or none in both cases. -/
theorem Alike.next (h : Alike f d) :
    (∃ s, f.next = .ok s f.advanced ∧ d.next = .ok s d.advanced) ∨
      ∃ f' d', f.next = .error .exhausted f' ∧ d.next = .error .exhausted d' := by
  have hremaining := h.remaining_eq
  rcases hf : f.remaining with _ | ⟨s, rest⟩
  · rw [hf] at hremaining
    exact Or.inr ⟨_, _, next_of_nil h.reliable hf, next_of_nil h.reliable' hremaining.symm⟩
  · rw [hf] at hremaining
    exact Or.inl ⟨s, next_of_remaining h.reliable hf,
      next_of_remaining h.reliable' hremaining.symm⟩

/-- Jumps to the same time leave the same samples, wherever the feeds were before. -/
theorem seek_alike {f' : Feed} {time : Word} (hsamples : f.samples = d.samples)
    (hf : f.readFaults = []) (hd : d.readFaults = []) (hfault : f.seekFault = d.seekFault)
    (h : seek time f = .ok () f') : ∃ d', seek time d = .ok () d' ∧ Alike f' d' := by
  obtain ⟨hnone, rfl⟩ := seek_ok h
  refine ⟨{ d with position := lowerBound d.samples time }, ?_, hsamples, ?_, hf, hd⟩
  · rw [seek, ← hfault, hnone]
  · rw [hsamples]

end Feed

/-! ### Grids -/

namespace Grid

variable {g d : Grid}

/-- The grids have the same samples left and are equal otherwise. -/
structure Alike (g d : Grid) : Prop where
  feed : g.feed.Alike d.feed
  width_eq : g.width = d.width
  offset_eq : g.offset = d.offset
  counter_eq : g.counter = d.counter
  boundary_eq : g.boundary = d.boundary
  phase_eq : g.phase = d.phase

theorem Alike.withPhase (h : Alike g d) (phase : Phase Sample) :
    Alike { g with phase := phase } { d with phase := phase } :=
  ⟨h.feed, h.width_eq, h.offset_eq, h.counter_eq, h.boundary_eq, rfl⟩

theorem Alike.setEnd (h : Alike g d) (last : Word) :
    Alike { g with boundary := last } { d with boundary := last } :=
  ⟨h.feed, h.width_eq, h.offset_eq, h.counter_eq, rfl, h.phase_eq⟩

theorem Alike.setWidth (h : Alike g d) (width : Word) :
    Alike (g.setWidth width) (d.setWidth width) := by
  rw [Grid.setWidth, Grid.setWidth]
  split
  · exact ⟨h.feed, rfl, h.offset_eq, h.counter_eq, h.boundary_eq, h.phase_eq⟩
  · exact h

theorem align_congr (hwidth : g.width = d.width) (hoffset : g.offset = d.offset) (time : Word) :
    g.align time = d.align time := by
  rw [align, align, elapsed, elapsed, hwidth, hoffset]

theorem bucketEnd_congr (hwidth : g.width = d.width) (hoffset : g.offset = d.offset)
    (time : Word) : g.bucketEnd time = d.bucketEnd time := by
  rw [bucketEnd, bucketEnd, align_congr hwidth hoffset, hwidth]

theorem pulled_congr (hfeed : g.feed.Alike d.feed) (hcounter : g.counter = d.counter) :
    g.pulled = d.pulled := by
  rw [pulled, pulled, hfeed.remaining_eq, hcounter]

theorem respects_read : Respects Alike read := by
  intro g d h
  rcases h.feed.next with ⟨s, hg, hd⟩ | ⟨f, f', hg, hd⟩
  · rw [read, read, hg, hd]
    exact .ok ⟨h.feed.advanced, h.width_eq, h.offset_eq, h.counter_eq, h.boundary_eq, h.phase_eq⟩
  · rw [read, read, hg, hd]
    exact .error rfl

theorem respects_pull : Respects Alike pull := by
  intro g d h
  rw [pull_eq h.feed.reliable, pull_eq h.feed.reliable', started, started,
    pulled_congr h.feed h.counter_eq]
  exact .ok ⟨h.feed.pulled, h.width_eq, h.offset_eq, h.counter_eq, h.boundary_eq, rfl⟩

theorem respects_openBucket : Respects Alike openBucket := by
  intro g d h
  rw [openBucket, openBucket, ← h.phase_eq]
  rcases g.phase with _ | s | _
  · exact .ok h
  · simp only [← bucketEnd_congr h.width_eq h.offset_eq]
    rcases g.bucketEnd s.time with fault | last
    · exact .error rfl
    · exact .ok ((h.setEnd last).withPhase (.ready s))
  · exact .ok h

theorem respects_fill : Respects Alike fill := by
  refine Respects.get_bind fun g d h => ?_
  rw [← h.phase_eq]
  rcases g.phase with _ | s | _
  · exact (respects_pull.bind fun _ => respects_openBucket) g d h
  · exact .ok h
  · exact .ok h

theorem respects_hasValue : Respects Alike hasValue := by
  refine respects_fill.bind fun _ => Respects.get_bind fun g d h => ?_
  rw [← h.phase_eq, ← h.boundary_eq]
  exact .ok h

theorem respects_count (c : Counter) (current : Sample) : Respects Alike (count c current) := by
  refine respects_read.bind fun next => Respects.get_bind fun g d h => ?_
  by_cases hle : next.time ≤ current.time
  · rw [checkOrder, checkOrder, if_pos hle, if_pos hle]
    exact .error (Fault.bare_disorder _ _ _ _)
  · have hlt := Int64.not_le.mp hle
    rw [checkOrder_of_lt hlt, checkOrder_of_lt hlt, ← h.feed.hasNext_eq]
    rcases c.delta current next with fault | amount
    · exact .error rfl
    · exact .ok (h.withPhase _)

theorem respects_nextValue : Respects Alike nextValue := by
  refine respects_hasValue.bind fun more => Respects.get_bind fun g d h => ?_
  rcases more with _ | _
  · exact .error (Fault.bare_noValue _ _)
  · rw [if_pos rfl, if_pos rfl, ← h.phase_eq, ← h.counter_eq]
    rcases g.phase with _ | current | _
    · exact .error (Fault.bare_noValue _ _)
    · rcases g.counter with _ | c
      · exact (respects_pull.bind fun _ => Respects.pure _) g d h
      · exact respects_count c current g d h
    · exact .error (Fault.bare_noValue _ _)

theorem alike : TimeBuckets.Alike Grid.Alike where
  hasValue := respects_hasValue
  nextValue := respects_nextValue
  openNext := respects_fill.bind fun _ => respects_openBucket
  bucketTime := respects_readBucketTime fun g d h => by
    show (g.bucketTime).mapError _ = (d.bucketTime).mapError _
    rw [bucketTime, bucketTime, h.boundary_eq, h.width_eq]
    simp only [align_congr h.width_eq h.offset_eq]
  pending g d h := by
    show pending g = pending d
    rw [pending, pending, h.phase_eq, h.feed.left_eq]
  pendingTime g d h := by
    show g.phase.held?.map Sample.time = d.phase.held?.map Sample.time
    rw [h.phase_eq]
  setWidth width g d h := h.setWidth width
  setEnd last g d h := h.setEnd last

/-- The grids have the same samples left, and what is left over from before does not matter,
because nothing was read since. -/
structure Unread (g d : Grid) : Prop where
  feed : g.feed.Alike d.feed
  offset_eq : g.offset = d.offset
  counter_eq : g.counter = d.counter
  unread : g.phase = .unread
  unread' : d.phase = .unread

theorem ended_of_spent (h : g.phase = .spent) : Ended g := by
  show hasValue g = _
  rw [hasValue, bind_of_ok (fill_of_begun (h ▸ Phase.spent_ne_unread)), get_bind, h]
  rfl

/-- What was read ahead either is a sample or ends the grid. -/
theorem pulled_cases (g : Grid) : g.pulled = .spent ∨ ∃ s, g.pulled = .ready s := by
  rcases g.started_cases with ⟨hphase, -⟩ | ⟨s, -, -, hphase, -⟩
  · exact Or.inl hphase
  · exact Or.inr ⟨s, hphase⟩

theorem openBucket_of_ok {s : Sample} {last : Word} (hphase : g.phase = .ready s)
    (hend : g.bucketEnd s.time = .ok last) :
    openBucket g = .ok () { g with boundary := last } := by
  simp only [openBucket, hphase, hend]

theorem openBucket_of_error {s : Sample} {fault : Fault} (hphase : g.phase = .ready s)
    (hend : g.bucketEnd s.time = .error fault) : openBucket g = .error fault g := by
  simp only [openBucket, hphase, hend]

/-- The grid that holds what was read ahead, with the end of its bucket. -/
def opened (g : Grid) (s : Sample) (last : Word) : Grid :=
  { g with feed := g.feed.pulled, phase := .ready s, boundary := last }

section First

variable {s : Sample} {last : Word} {fault : Fault} (hphase : g.phase = .unread)
  (hf : g.feed.readFaults = [])

include hphase hf

theorem fill_eq_openBucket :
    fill g = openBucket { g with feed := g.feed.pulled, phase := g.pulled } := by
  rw [fill, get_bind, hphase]
  exact bind_of_ok (pull_eq hf)

theorem fill_of_spent (hpulled : g.pulled = .spent) :
    fill g = .ok () { g with feed := g.feed.pulled, phase := .spent } := by
  rw [fill_eq_openBucket hphase hf, hpulled]
  rfl

theorem fill_of_ok (hpulled : g.pulled = .ready s) (hend : g.bucketEnd s.time = .ok last) :
    fill g = .ok () (g.opened s last) := by
  rw [fill_eq_openBucket hphase hf, hpulled]
  exact openBucket_of_ok rfl hend

theorem fill_of_error (hpulled : g.pulled = .ready s) (hend : g.bucketEnd s.time = .error fault) :
    ∃ g', fill g = .error fault g' := by
  rw [fill_eq_openBucket hphase hf, hpulled]
  exact ⟨_, openBucket_of_error rfl hend⟩

end First

/-- The first reading ahead replaces the boundary that is left over. -/
theorem begins : Begins Alike fun g d : Grid => Unread g d ∧ g.width = d.width := by
  rintro g d ⟨h, hwidth⟩
  have hfill : Agrees (fun _ g' d' => Alike g' d' ∨ g'.phase = .spent ∧ d'.phase = .spent)
      (fill g) (fill d) := by
    have hpulled := pulled_congr h.feed h.counter_eq
    rcases pulled_cases g with hg | ⟨s, hg⟩
    · rw [fill_of_spent h.unread h.feed.reliable hg,
        fill_of_spent h.unread' h.feed.reliable' (hpulled ▸ hg)]
      exact .ok (Or.inr ⟨rfl, rfl⟩)
    · have hend := bucketEnd_congr hwidth h.offset_eq s.time
      rcases hlast : g.bucketEnd s.time with fault | last
      · obtain ⟨g', hfill⟩ := fill_of_error h.unread h.feed.reliable hg hlast
        obtain ⟨d', hfill'⟩ := fill_of_error h.unread' h.feed.reliable' (hpulled ▸ hg)
          (hend ▸ hlast)
        rw [hfill, hfill']
        exact .error rfl
      · rw [fill_of_ok h.unread h.feed.reliable hg hlast,
          fill_of_ok h.unread' h.feed.reliable' (hpulled ▸ hg) (hend ▸ hlast)]
        exact .ok (Or.inl ⟨h.feed.pulled, hwidth, h.offset_eq, h.counter_eq, rfl, rfl⟩)
  refine hfill.bind fun _ g' d' h' => ?_
  rcases h' with h' | ⟨hg, hd⟩
  · rw [get_bind, get_bind, ← h'.phase_eq, ← h'.boundary_eq]
    exact .ok (Or.inl h')
  · rw [get_bind, get_bind, hg, hd]
    exact .ok (Or.inr ⟨rfl, ended_of_spent hg, ended_of_spent hd⟩)

end Grid

/-! ### Runs -/

namespace Runs

variable {known : Prop} {r q : Runs} {pair : Pair}

/-- The cursors have the same samples left and are equal otherwise, but for the start of the open
run, which is the same if it is known to be. -/
structure Alike (known : Prop) (r q : Runs) : Prop where
  feed : r.feed.Alike q.feed
  counter_eq : r.counter = q.counter
  phase_eq : r.phase = q.phase
  start_eq : known → r.start = q.start

theorem Alike.withPhase (h : Alike known r q) (phase : Phase Pair) :
    Alike known { r with phase := phase } { q with phase := phase } :=
  ⟨h.feed, h.counter_eq, rfl, h.start_eq⟩

theorem respects_read : Respects (Alike known) read := by
  intro r q h
  rcases h.feed.next with ⟨s, hr, hq⟩ | ⟨f, f', hr, hq⟩
  · rw [read, read, hr, hq]
    exact .ok ⟨h.feed.advanced, h.counter_eq, h.phase_eq, h.start_eq⟩
  · rw [read, read, hr, hq]
    exact .error rfl

theorem respects_pairWith (previous : Sample) : Respects (Alike known) (pairWith previous) := by
  refine respects_read.bind fun current => Respects.get_bind fun r q h => ?_
  by_cases hle : current.time ≤ previous.time
  · rw [checkOrder, checkOrder, if_pos hle, if_pos hle]
    exact .error (Fault.bare_disorder _ _ _ _)
  · have hlt := Int64.not_le.mp hle
    rw [checkOrder_of_lt hlt, checkOrder_of_lt hlt]
    exact .ok (h.withPhase _)

theorem respects_advance : Respects (Alike known) advance := by
  refine Respects.get_bind fun r q h => ?_
  rw [← h.phase_eq, ← h.feed.hasNext_eq]
  rcases r.phase with _ | pair | _
  · exact .ok h
  · by_cases hmore : r.feed.hasNext = true
    · simp only [hmore, if_true]
      exact respects_pairWith pair.current r q h
    · simp only [hmore]
      exact .ok (h.withPhase .spent)
  · exact .ok h

/-- What a pair contributes depends on the counter only. -/
theorem contributed_congr (h : r.counter = q.counter) (pair : Pair) :
    (∃ amount, contributed pair r = .ok amount r ∧ contributed pair q = .ok amount q) ∨
      ∃ fault, contributed pair r = .error fault r ∧ contributed pair q = .error fault q := by
  rw [contributed, contributed, ← h]
  rcases contribution r.counter pair with fault | amount
  · exact Or.inr ⟨fault, rfl, rfl⟩
  · exact Or.inl ⟨amount, rfl, rfl⟩

theorem respects_contributed (pair : Pair) : Respects (Alike known) (contributed pair) := by
  intro r q h
  rcases contributed_congr h.counter_eq pair with ⟨amount, hr, hq⟩ | ⟨fault, hr, hq⟩
  · rw [hr, hq]
    exact .ok h
  · rw [hr, hq]
    exact .error rfl

theorem respects_skip (n : Nat) : Respects (Alike known) (skip n) := by
  induction n with
  | zero => exact Respects.pure ()
  | succ n ih =>
    refine Respects.get_bind fun r q h => ?_
    rw [← h.phase_eq]
    rcases r.phase with _ | pair | _
    · exact .ok h
    · refine (respects_contributed pair r q h).bind fun amount r' q' h' => ?_
      by_cases hlive : (amount != 0) = true
      · rw [if_pos hlive, if_pos hlive]
        exact .ok ⟨h.feed, h.counter_eq, rfl, fun _ => rfl⟩
      · rw [if_neg hlive, if_neg hlive]
        exact (respects_advance.bind fun _ => ih) r' q' h'
    · exact .ok h

theorem respects_skipIdle : Respects (Alike known) skipIdle := by
  refine Respects.get_bind fun r q h => ?_
  rw [← h.feed.left_eq]
  exact respects_skip _ r q h

theorem respects_readFirst : Respects (Alike known) readFirst := by
  refine Respects.bind (Respects.modify fun r q h => h.withPhase .spent) fun _ => ?_
  refine Respects.get_bind fun r q h => ?_
  rw [← h.feed.hasNext_eq]
  split
  · refine (respects_read.bind fun first => Respects.get_bind fun r' q' h' => ?_) r q h
    rw [← h'.feed.hasNext_eq]
    split
    · exact respects_pairWith first r' q' h'
    · exact .ok h'
  · exact .ok h

theorem respects_fill : Respects (Alike known) fill := by
  refine Respects.get_bind fun r q h => ?_
  rw [← h.phase_eq]
  rcases r.phase with _ | pair | _
  · exact (respects_readFirst.bind fun _ => respects_skipIdle) r q h
  · exact .ok h
  · exact .ok h

theorem respects_holdsLive : Respects (Alike known) holdsLive := by
  refine Respects.get_bind fun r q h => ?_
  rw [← h.phase_eq]
  rcases r.phase with _ | pair | _
  · exact .ok h
  · exact ((respects_contributed pair).bind fun _ => Respects.pure _) r q h
  · exact .ok h

theorem respects_hasValue : Respects (Alike known) hasValue :=
  respects_fill.bind fun _ => respects_holdsLive

theorem respects_nextValue : Respects (Alike known) nextValue := by
  refine respects_hasValue.bind fun more => Respects.get_bind fun r q h => ?_
  rcases more with _ | _
  · exact .error (Fault.bare_noValue _ _)
  · rw [if_pos rfl, if_pos rfl, ← h.phase_eq]
    rcases r.phase with _ | pair | _
    · exact .error (Fault.bare_noValue _ _)
    · exact ((respects_contributed pair).bind fun _ =>
        respects_advance.bind fun _ => Respects.pure _) r q h
    · exact .error (Fault.bare_noValue _ _)

theorem alike : TimeBuckets.Alike (Runs.Alike True) where
  hasValue := respects_hasValue
  nextValue := respects_nextValue
  openNext := respects_fill.bind fun _ => respects_skipIdle
  bucketTime := respects_readBucketTime fun r q h => by
    show (Except.ok r.start).mapError _ = (Except.ok q.start).mapError _
    rw [h.start_eq trivial]
  pending r q h := by
    show pending r = pending q
    rw [pending, pending, h.phase_eq, h.feed.left_eq]
  pendingTime r q h := by
    show (r.phase.held?.map fun pair => pair.previous.time)
      = q.phase.held?.map fun pair => pair.previous.time
    rw [h.phase_eq]
  setWidth _ r q h := h
  setEnd _ r q h := h

/-- Moving on from a pair leaves less to come. -/
theorem pending_of_advance {r' : Runs} (hf : r.feed.readFaults = [])
    (hphase : r.phase = .ready pair) (h : advance r = .ok () r') :
    r'.phase ≠ .unread ∧ pending r' < pending r := by
  have hpending : pending r = r.feed.remaining.length + 1 := by
    rw [pending, hphase, ← Feed.left_eq]
  rw [advance, get_bind, hphase] at h
  simp only [Feed.hasNext_eq] at h
  rcases hrem : r.feed.remaining with _ | ⟨s, rest⟩
  · rw [hrem] at h
    obtain ⟨-, rfl⟩ := EStateM.Result.ok.inj h
    rw [hpending]
    exact ⟨Phase.spent_ne_unread, Nat.succ_pos _⟩
  · rw [hrem] at h
    have hpair : pairWith pair.current r = .ok () r' := h
    rw [pairWith, bind_of_ok (read_of_remaining hf hrem), get_bind] at hpair
    by_cases hle : s.time ≤ pair.current.time
    · rw [checkOrder, if_pos hle] at hpair
      cases hpair
    · rw [checkOrder_of_lt (Int64.not_le.mp hle)] at hpair
      obtain ⟨-, rfl⟩ := EStateM.Result.ok.inj hpair
      refine ⟨Phase.ready_ne_unread _, ?_⟩
      show r.feed.advanced.left + 1 < _
      rw [hpending, hrem, Feed.left_eq, Feed.remaining_advanced, hrem, List.tail_cons,
        List.length_cons]
      exact Nat.lt_succ_self _

/-- The next run starts at the same time in both cursors, or both are at their end. -/
theorem agrees_skip {n : Nat} (h : Alike known r q) (hbegun : r.phase ≠ .unread)
    (hn : pending r ≤ n) :
    Agrees (fun _ r' q' => Alike True r' q' ∨ r'.phase = .spent ∧ q'.phase = .spent)
      (skip n r) (skip n q) := by
  induction n generalizing r q with
  | zero =>
    have hphase : r.phase = .spent := by
      rw [pending] at hn
      rcases hphase : r.phase with _ | pair | _
      · exact absurd hphase hbegun
      · rw [hphase] at hn
        exact absurd hn (Nat.not_succ_le_zero _)
      · rfl
    exact .ok (Or.inr ⟨hphase, h.phase_eq ▸ hphase⟩)
  | succ n ih =>
    rw [skip, get_bind, get_bind, ← h.phase_eq]
    rcases hphase : r.phase with _ | pair | _
    · exact absurd hphase hbegun
    · dsimp only
      rcases contributed_congr h.counter_eq pair with ⟨amount, hr, hq⟩ | ⟨fault, hr, hq⟩
      · rw [bind_of_ok hr, bind_of_ok hq]
        by_cases hlive : (amount != 0) = true
        · rw [if_pos hlive, if_pos hlive]
          exact .ok (Or.inl ⟨h.feed, h.counter_eq, rfl, fun _ => rfl⟩)
        · rw [if_neg hlive, if_neg hlive]
          have hadvance := (respects_advance r q h).with_left fun _ r' hrun =>
            pending_of_advance h.feed.reliable hphase hrun
          exact hadvance.bind fun _ r' q' h' => ih h'.1 h'.2.1 (by omega)
      · rw [bind_of_error hr, bind_of_error hq]
        exact .error rfl
    · exact .ok (Or.inr ⟨hphase, h.phase_eq ▸ hphase⟩)

/-- The cursors have the same samples left, and the start that is left over from before does not
matter, because nothing was read since. -/
def Unread (r q : Runs) : Prop := Alike False r q ∧ r.phase = .unread

theorem ended_of_spent (h : r.phase = .spent) : Ended r := by
  show hasValue r = _
  rw [hasValue, bind_of_ok (fill_of_begun (h ▸ Phase.spent_ne_unread)), holdsLive, get_bind, h]
  rfl

theorem begun_read : Keeps (fun r : Runs => r.phase ≠ .unread) read := by
  intro r hr
  rw [after, read]
  rcases r.feed.next with ⟨s, feed⟩ | ⟨fault, feed⟩
  · exact hr
  · exact hr

theorem begun_readFirst (r : Runs) : (after readFirst r).phase ≠ .unread := by
  refine after_bind (P := fun r : Runs => r.phase ≠ .unread) Phase.spent_ne_unread
    fun _ => Keeps.get_bind fun r _ => Keeps.ite ?_ (Keeps.pure ())
  refine begun_read.bind fun first => Keeps.get_bind fun r _ => Keeps.ite ?_ (Keeps.pure ())
  refine begun_read.bind fun current => Keeps.get_bind fun r _ => ?_
  rcases checkOrder first current r.text with fault | _
  · exact Keeps.throw fault
  · exact Keeps.set (Phase.ready_ne_unread _)

theorem pending_le (r : Runs) : pending r ≤ r.feed.left + 1 := by
  rw [pending]
  rcases r.phase with _ | pair | _
  · exact Nat.le_succ _
  · exact Nat.le_refl _
  · exact Nat.zero_le _

/-- The first reading ahead replaces the start that is left over. -/
theorem begins : Begins (Alike True) Unread := by
  rintro r q ⟨h, hphase⟩
  have hfirst := (respects_readFirst r q h).with_left (P := fun _ r' => r'.phase ≠ .unread)
    fun _ r' hrun => after_of_ok hrun ▸ begun_readFirst r
  have hfill : Agrees (fun _ r' q' => Alike True r' q' ∨ r'.phase = .spent ∧ q'.phase = .spent)
      (fill r) (fill q) := by
    rw [fill, get_bind, get_bind, ← h.phase_eq, hphase]
    refine hfirst.bind fun _ r' q' h' => ?_
    rw [skipIdle, get_bind, get_bind, ← h'.1.feed.left_eq]
    exact agrees_skip h'.1 h'.2 (pending_le r')
  refine hfill.bind fun _ r' q' h' => ?_
  rcases h' with h' | ⟨hr, hq⟩
  · exact (respects_holdsLive r' q' h').imp fun _ _ _ => Or.inl
  · rw [holdsLive, get_bind, get_bind, hr, hq]
    exact .ok (Or.inr ⟨rfl, ended_of_spent hr, ended_of_spent hq⟩)

end Runs

/-! ### Calendars -/

namespace CalendarCursor

variable {σ : Type} {E : σ → σ → Prop} {c d : CalendarCursor σ}

/-- The calendars are over the same units of the same zone, above cursors that are alike. -/
structure Alike (E : σ → σ → Prop) (c d : CalendarCursor σ) : Prop where
  unit_eq : c.unit = d.unit
  zone_eq : c.zone = d.zone
  phase_eq : c.phase = d.phase
  inner : E c.inner d.inner

theorem Alike.withPhase (h : Alike E c d) (phase : Phase Word) :
    Alike E { c with phase := phase } { d with phase := phase } :=
  ⟨h.unit_eq, h.zone_eq, rfl, h.inner⟩

theorem respects_below {α : Type} {run : EStateM Fault σ α} (hrun : Respects E run) :
    Respects (Alike E) (below run) := by
  intro c d h
  have hinner := hrun c.inner d.inner h.inner
  rw [below, below]
  generalize run c.inner = x at hinner ⊢
  generalize run d.inner = y at hinner ⊢
  cases hinner with
  | ok h' => exact .ok ⟨h.unit_eq, h.zone_eq, h.phase_eq, h'⟩
  | error h' => exact .error h'

theorem unitStart_congr (hunit : c.unit = d.unit) (hzone : c.zone = d.zone) (time : Word) :
    c.unitStart time = d.unitStart time := by
  rw [unitStart, unitStart, hunit, hzone]

theorem unitAround_congr (hunit : c.unit = d.unit) (hzone : c.zone = d.zone) (time : Word) :
    c.unitAround time = d.unitAround time := by
  rw [unitAround, unitAround, unitStart_congr hunit hzone, hunit, hzone]

theorem unitFrom_congr (hunit : c.unit = d.unit) (hzone : c.zone = d.zone) (time : Word) :
    c.unitFrom time = d.unitFrom time := by
  rw [unitFrom, unitFrom, unitStart_congr hunit hzone, hunit, hzone]

variable [BucketCursor σ]

theorem Alike.pin (halike : TimeBuckets.Alike E) (h : Alike E c d) (start : Date) (last : Word) :
    Alike E (c.pin start last) (d.pin start last) := by
  refine ⟨h.unit_eq, h.zone_eq, rfl, halike.setEnd last _ _ ?_⟩
  rw [h.unit_eq]
  rcases d.unit.width? start with _ | width
  · exact h.inner
  · exact halike.setWidth width _ _ h.inner

section Steps

variable (halike : TimeBuckets.Alike E)

include halike

theorem respects_openUnit : Respects (Alike E) openUnit := by
  refine (respects_below halike.openNext).bind fun _ => ?_
  refine (respects_below halike.hasValue).bind fun more => Respects.get_bind fun c d h => ?_
  rw [← halike.pendingTime _ _ h.inner]
  rcases (if more then BucketCursor.pendingTime c.inner else none) with _ | time
  · exact .ok (h.withPhase .spent)
  · simp only [← unitAround_congr h.unit_eq h.zone_eq]
    rcases c.unitAround time with fault | ⟨start, last⟩
    · exact .error rfl
    · exact .ok (h.pin halike start last)

theorem respects_fill : Respects (Alike E) fill := by
  refine Respects.get_bind fun c d h => ?_
  rw [← h.phase_eq]
  rcases c.phase with _ | last | _
  · exact respects_openUnit halike c d h
  · exact .ok h
  · exact .ok h

theorem respects_hasValue : Respects (Alike E) hasValue := by
  refine (respects_fill halike).bind fun _ => Respects.get_bind fun c d h => ?_
  rw [← h.phase_eq]
  rcases c.phase with _ | last | _
  · exact .ok h
  · refine ((respects_below halike.hasValue).bind fun more => ?_) c d h
    refine Respects.ite (Respects.get_bind fun c' d' h' => ?_) (Respects.pure false)
    rw [← halike.pendingTime _ _ h'.inner]
    exact .ok h'
  · exact .ok h

theorem respects_nextValue : Respects (Alike E) nextValue := by
  refine (respects_hasValue halike).bind fun more => ?_
  rcases more with _ | _
  · exact fun c d h => .error (Fault.bare_noValue _ _)
  · exact respects_below halike.nextValue

theorem respects_openNext : Respects (Alike E) openNext := by
  refine Respects.get_bind fun c d h => ?_
  rw [← h.phase_eq]
  rcases c.phase with _ | last | _
  · exact respects_openUnit halike c d h
  · exact respects_openUnit halike c d h
  · exact .ok h

/-- Calendars are alike above cursors that are. -/
theorem alike : TimeBuckets.Alike (Alike E) where
  hasValue := respects_hasValue halike
  nextValue := respects_nextValue halike
  openNext := respects_openNext halike
  bucketTime := respects_readBucketTime fun c d h => by
    show c.bucketTime.mapError _ = d.bucketTime.mapError _
    rw [bucketTime, bucketTime, ← h.phase_eq]
    rcases c.phase with _ | last | _
    · exact congrArg Except.error (Fault.bare_noValue _ _)
    · simp only [unitStart_congr h.unit_eq h.zone_eq, h.unit_eq, h.zone_eq]
    · exact congrArg Except.error (Fault.bare_noValue _ _)
  pending c d h := halike.pending _ _ h.inner
  pendingTime c d h := halike.pendingTime _ _ h.inner
  setWidth _ c d h := h
  setEnd _ c d h := h

end Steps

end CalendarCursor

end TimeBuckets
