/-
What is ahead of a cursor only shrinks.

* `Waning` — operations that do not jump leave some of the samples ahead that were ahead, and a jump
  leaves those that the feed has left then;
* `Grid.waning`, `Runs.waning`, `CalendarCursor.waning` — this for each kind of cursor;
* `Shape.waning` — and so for cursors of every shape.

Nothing is asked of the samples or of the feed.  A pair of samples out of order may cost the second
one while the first is still held, which is why the samples that are left need not come last.
-/
import TimeBuckets.Proofs.Calendar
import TimeBuckets.Proofs.Conservation
import TimeBuckets.Proofs.Course

namespace TimeBuckets

section Waning

variable {σ : Type} [BucketCursor σ]

/-- Of the samples ahead of a cursor, the first of which is the pending one, only jumps bring any
back. -/
structure Waning (stock : σ → List Sample) : Prop where
  hasValue (items : List Sample) :
    Keeps (fun c => (stock c).Sublist items) (ValueStream.hasValue (σ := σ))
  nextValue (items : List Sample) :
    Keeps (fun c => (stock c).Sublist items) (ValueStream.nextValue (σ := σ))
  openNext (items : List Sample) :
    Keeps (fun c => (stock c).Sublist items) (BucketCursor.openNext (σ := σ))
  reposition (time : Word) (c : σ) : match BucketCursor.reposition time c with
    | .ok _ c' => stock c' = (BucketCursor.feed c').remaining
    | .error _ c' => (stock c').Sublist (stock c)
  setWidth (width : Word) (c : σ) : stock (BucketCursor.setWidth width c) = stock c
  setEnd (last : Word) (c : σ) : stock (BucketCursor.setEnd last c) = stock c
  head {c : σ} {time : Word} : BucketCursor.pendingTime c = some time →
    ∃ a rest, stock c = a :: rest ∧ a.time = time

end Waning

namespace Grid

variable {g : Grid} {items : List Sample}

theorem stock_sublist_advanced (g : Grid) :
    (stock { g with feed := g.feed.advanced }).Sublist g.stock := by
  have hrem : g.feed.advanced.remaining.Sublist g.feed.remaining := by
    rw [Feed.remaining_advanced]
    exact List.tail_sublist _
  rw [stock, stock]
  rcases g.phase with _ | s | _
  · exact hrem
  · exact hrem.cons_cons s
  · exact List.Sublist.refl _

/-- Reading ahead replaces what is held with the first of what is left. -/
theorem sublist_pull (h : g.phase ≠ .spent) : (after pull g).stock.Sublist g.stock := by
  rcases pull_cases g with ⟨hpull, -⟩ | ⟨fault, hpull, -⟩
  · rw [after_of_ok hpull]
    exact (g.stock_started_suffix.trans (remaining_suffix h)).sublist
  · rw [after_of_error hpull]
    exact List.Sublist.refl _

theorem keeps_sublist_openBucket : Keeps (fun g : Grid => g.stock.Sublist items) openBucket :=
  keeps_of_setEnd fun _ _ h => h

theorem keeps_sublist_fill : Keeps (fun g : Grid => g.stock.Sublist items) fill := by
  intro g hg
  by_cases hphase : g.phase = .unread
  · have hfill : fill g = (pull >>= fun _ => openBucket) g := by rw [fill, get_bind, hphase]
    have hne : g.phase ≠ .spent := by rw [hphase]; exact Phase.unread_ne_spent
    rw [after, hfill, ← after]
    exact after_bind (P := fun g : Grid => g.stock.Sublist items) ((sublist_pull hne).trans hg)
      fun _ => keeps_sublist_openBucket
  · rwa [after_of_ok (fill_of_begun hphase)]

theorem keeps_sublist_hasValue : Keeps (fun g : Grid => g.stock.Sublist items) hasValue :=
  keeps_sublist_fill.bind fun _ => Keeps.get_bind fun _ _ => Keeps.pure _

/-- Taking a value of a counter leaves the second sample of the pair ahead, or the first one if the
two are not in order. -/
theorem sublist_count {s : Sample} (c : Counter) (hphase : g.phase = .ready s) :
    (after (count c s) g).stock.Sublist g.stock := by
  rcases g.feed.next_cases with ⟨next, rest, hrem, hnext⟩ | ⟨fault, hnext, -⟩
  · have hread : read g = .ok next { g with feed := g.feed.advanced } := by rw [read, hnext]
    have hrest : g.feed.advanced.remaining = rest := by
      rw [Feed.remaining_advanced, hrem, List.tail_cons]
    have hstock : g.stock = s :: next :: rest := by rw [stock, hphase, hrem]
    have hheld : (holding { g with feed := g.feed.advanced } next).stock.Sublist g.stock := by
      rw [hstock, holding]
      by_cases hmore : g.feed.advanced.hasNext = true
      · rw [if_pos hmore]
        show (next :: g.feed.advanced.remaining).Sublist _
        rw [hrest]
        exact List.sublist_cons_self _ _
      · rw [if_neg hmore]
        exact List.nil_sublist _
    rcases horder : checkOrder s next (text { g with feed := g.feed.advanced }) with fault | _
    · rw [after_of_error (count_of_disordered hread horder)]
      exact stock_sublist_advanced g
    · rw [after, count_of_ordered hread horder]
      rcases c.delta s next with fault | amount
      · exact hheld
      · exact hheld
  · have hread : read g = .error (.source fault) { g with feed := g.feed.missed } := by
      rw [read, hnext]
    rw [after_of_error (count_of_failed hread)]
    exact List.Sublist.refl _

theorem keeps_sublist_nextValue : Keeps (fun g : Grid => g.stock.Sublist items) nextValue := by
  intro g hg
  have hasked := keeps_sublist_hasValue g hg
  rcases hhas : hasValue g with ⟨more, g₁⟩ | ⟨fault, g₁⟩
  · rw [after_of_ok hhas] at hasked
    rw [after, nextValue, bind_of_ok hhas, get_bind, ← after]
    rcases more with _ | _
    · exact hasked
    · rw [if_pos rfl]
      rcases hphase : g₁.phase with _ | s | _
      · exact hasked
      · rcases hcounter : g₁.counter with _ | c
        · refine after_bind (P := fun g : Grid => g.stock.Sublist items) ?_ fun _ => Keeps.pure _
          exact (sublist_pull (hphase ▸ Phase.ready_ne_spent s)).trans hasked
        · exact (sublist_count c hphase).trans hasked
      · exact hasked
  · rw [after_of_error hhas] at hasked
    rwa [nextValue, after_of_error (bind_of_error hhas)]

theorem waning : Waning stock where
  hasValue _ := keeps_sublist_hasValue
  nextValue _ := keeps_sublist_nextValue
  openNext _ := keeps_sublist_fill.bind fun _ => keeps_sublist_openBucket
  reposition time g := by
    rcases hseek : Feed.seek time g.feed with ⟨_, feed⟩ | ⟨fault, feed⟩
    · rw [show BucketCursor.reposition time g = .ok () _ from reposition_of_ok hseek]
      rfl
    · rw [show BucketCursor.reposition time g = .error _ _ from reposition_of_error hseek]
  setWidth width g := by
    show (g.setWidth width).stock = g.stock
    rw [Grid.setWidth]
    split
    · rfl
    · rfl
  setEnd _ _ := rfl
  head {g time} h := by
    obtain ⟨s, hheld, htime⟩ := Option.map_eq_some_iff.mp h
    rcases hphase : g.phase with _ | s' | _
    · rw [hphase] at hheld
      cases hheld
    · rw [hphase] at hheld
      obtain rfl := Option.some.inj hheld
      exact ⟨s', g.feed.remaining, by rw [stock, hphase], htime⟩
    · rw [hphase] at hheld
      cases hheld

end Grid

namespace Runs

variable {r : Runs} {items : List Sample}

theorem stock_sublist_advanced (r : Runs) :
    (stock { r with feed := r.feed.advanced }).Sublist r.stock := by
  have hrem : r.feed.advanced.remaining.Sublist r.feed.remaining := by
    rw [Feed.remaining_advanced]
    exact List.tail_sublist _
  rw [stock, stock]
  rcases r.phase with _ | pair | _
  · exact hrem
  · exact (hrem.cons_cons pair.current).cons_cons pair.previous
  · exact List.Sublist.refl _

/-- Reading what follows a sample leaves no more ahead than this sample, what is left, and what was
ahead. -/
theorem sublist_pairWith {previous : Sample} (h : r.stock.Sublist items)
    (hprevious : (previous :: r.feed.remaining).Sublist items) :
    (after (pairWith previous) r).stock.Sublist items := by
  rcases r.feed.next_cases with ⟨current, rest, hrem, hnext⟩ | ⟨fault, hnext, -⟩
  · have hread : read r = .ok current { r with feed := r.feed.advanced } := by rw [read, hnext]
    have hrest : r.feed.advanced.remaining = rest := by
      rw [Feed.remaining_advanced, hrem, List.tail_cons]
    rw [after, pairWith, bind_of_ok hread, get_bind]
    rcases checkOrder previous current (text { r with feed := r.feed.advanced }) with fault | _
    · exact (stock_sublist_advanced r).trans h
    · show (previous :: current :: r.feed.advanced.remaining).Sublist items
      rwa [hrest, ← hrem]
  · have hread : read r = .error (.source fault) { r with feed := r.feed.missed } := by
      rw [read, hnext]
    rw [pairWith, after_of_error (bind_of_error hread)]
    exact h

theorem keeps_sublist_advance : Keeps (fun r : Runs => r.stock.Sublist items) advance := by
  intro r hr
  rw [after, advance, get_bind]
  rcases hphase : r.phase with _ | pair | _
  · exact hr
  · have hstock : r.stock = pair.previous :: pair.current :: r.feed.remaining := by
      rw [stock, hphase]
    by_cases hnext : r.feed.hasNext = true
    · simp only [hnext, if_true]
      rw [← after]
      refine sublist_pairWith hr (List.Sublist.trans ?_ hr)
      rw [hstock]
      exact List.sublist_cons_self _ _
    · simp only [hnext]
      exact List.nil_sublist _
  · exact hr

theorem keeps_sublist_skip (n : Nat) : Keeps (fun r : Runs => r.stock.Sublist items) (skip n) := by
  induction n with
  | zero => exact Keeps.pure ()
  | succ n ih =>
    refine Keeps.get_bind fun r hr => ?_
    rcases hphase : r.phase with _ | pair | _
    · exact Keeps.pure ()
    · have hstarted : (stock { r with start := pair.previous.time }).Sublist items := hr
      rw [hphase] at hstarted
      exact (keeps_contributed pair).bind fun _ =>
        Keeps.ite (Keeps.set hstarted) (keeps_sublist_advance.bind fun _ => ih)
    · exact Keeps.pure ()

theorem keeps_sublist_skipIdle : Keeps (fun r : Runs => r.stock.Sublist items) skipIdle :=
  Keeps.get_bind fun r _ => keeps_sublist_skip (r.feed.left + 1)

theorem sublist_readFirst (h : r.feed.remaining.Sublist items) :
    (after readFirst r).stock.Sublist items := by
  rw [after, readFirst, modify_bind, get_bind]
  by_cases hnext : r.feed.hasNext = true
  · rw [if_pos hnext]
    rcases r.feed.next_cases with ⟨first, rest, hrem, hread⟩ | ⟨fault, hread, -⟩
    · have hrun : read { r with phase := .spent }
          = .ok first { r with phase := .spent, feed := r.feed.advanced } := by rw [read, hread]
      have hrest : r.feed.advanced.remaining = rest := by
        rw [Feed.remaining_advanced, hrem, List.tail_cons]
      rw [bind_of_ok hrun, get_bind]
      by_cases hmore : r.feed.advanced.hasNext = true
      · rw [if_pos hmore, ← after]
        refine sublist_pairWith (List.nil_sublist _) ?_
        show (first :: r.feed.advanced.remaining).Sublist items
        rwa [hrest, ← hrem]
      · rw [if_neg hmore]
        exact List.nil_sublist _
    · have hrun : read { r with phase := .spent }
          = .error (.source fault) { r with phase := .spent, feed := r.feed.missed } := by
        rw [read, hread]
      rw [bind_of_error hrun]
      exact List.nil_sublist _
  · rw [if_neg hnext]
    exact List.nil_sublist _

theorem keeps_sublist_fill : Keeps (fun r : Runs => r.stock.Sublist items) fill := by
  intro r hr
  by_cases hphase : r.phase = .unread
  · have hfill : fill r = (readFirst >>= fun _ => skipIdle) r := by rw [fill, get_bind, hphase]
    rw [stock, hphase] at hr
    rw [after, hfill, ← after]
    exact after_bind (P := fun r : Runs => r.stock.Sublist items) (sublist_readFirst hr)
      fun _ => keeps_sublist_skipIdle
  · rwa [after_of_ok (fill_of_begun hphase)]

theorem keeps_sublist_hasValue : Keeps (fun r : Runs => r.stock.Sublist items) hasValue :=
  keeps_sublist_fill.bind fun _ => keeps_holdsLive

theorem keeps_sublist_nextValue : Keeps (fun r : Runs => r.stock.Sublist items) nextValue := by
  refine keeps_sublist_hasValue.bind fun more => Keeps.get_bind fun r _ => ?_
  refine Keeps.ite ?_ (Keeps.throw _)
  rcases r.phase with _ | pair | _
  · exact Keeps.throw _
  · exact (keeps_contributed pair).bind fun _ => keeps_sublist_advance.bind fun _ => Keeps.pure _
  · exact Keeps.throw _

theorem waning : Waning stock where
  hasValue _ := keeps_sublist_hasValue
  nextValue _ := keeps_sublist_nextValue
  openNext _ := keeps_sublist_fill.bind fun _ => keeps_sublist_skipIdle
  reposition time r := by
    rcases hseek : Feed.seek time r.feed with ⟨_, feed⟩ | ⟨fault, feed⟩
    · rw [show BucketCursor.reposition time r = .ok () _ from reposition_of_ok hseek]
      rfl
    · rw [show BucketCursor.reposition time r = .error _ _ from reposition_of_error hseek]
  setWidth _ _ := rfl
  setEnd _ _ := rfl
  head {r time} h := by
    obtain ⟨pair, hheld, htime⟩ := Option.map_eq_some_iff.mp h
    rcases hphase : r.phase with _ | pair' | _
    · rw [hphase] at hheld
      cases hheld
    · rw [hphase] at hheld
      obtain rfl := Option.some.inj hheld
      exact ⟨pair'.previous, pair'.current :: r.feed.remaining, by rw [stock, hphase], htime⟩
    · rw [hphase] at hheld
      cases hheld

end Runs

namespace CalendarCursor

variable {σ : Type} [BucketCursor σ] {stock : σ → List Sample}

/-- What is ahead of the cursor below is ahead. -/
theorem waning (h : Waning stock) : Waning fun c : CalendarCursor σ => stock c.inner := by
  have hwidth (items : List Sample) (width : Word) (c : σ) (hc : (stock c).Sublist items) :
      (stock (BucketCursor.setWidth width c)).Sublist items := by rwa [h.setWidth]
  have hend (items : List Sample) (last : Word) (c : σ) (hc : (stock c).Sublist items) :
      (stock (BucketCursor.setEnd last c)).Sublist items := by rwa [h.setEnd]
  refine ⟨fun items => keeps_inner (P := fun c => (stock c).Sublist items) fun u z => ?_,
    fun items => keeps_inner (P := fun c => (stock c).Sublist items) fun u z => ?_,
    fun items => keeps_inner (P := fun c => (stock c).Sublist items) fun u z => ?_,
    fun time c => ?_, fun _ _ => rfl, fun _ _ => rfl,
    fun hpending => h.head hpending⟩
  · exact keeps_hasValue (h.hasValue items) (h.openNext items) (fun w _ => hwidth items w)
      (hend items)
  · exact keeps_nextValue (h.hasValue items) (h.openNext items) (fun w _ => hwidth items w)
      (hend items) (h.nextValue items)
  · exact keeps_openNext (h.hasValue items) (h.openNext items) (fun w _ => hwidth items w)
      (hend items)
  · have hinner := h.reposition time c.inner
    rcases hrun : BucketCursor.reposition time c.inner with ⟨_, inner⟩ | ⟨fault, inner⟩
    · rw [hrun] at hinner
      rw [show BucketCursor.reposition time c = .ok () _ from reposition_of_ok hrun]
      exact hinner
    · rw [hrun] at hinner
      rw [show BucketCursor.reposition time c = .error _ _ from reposition_of_error hrun]
      exact hinner

end CalendarCursor

/-- Of the samples ahead of a cursor of any shape, only jumps bring any back. -/
theorem Shape.waning (shape : Shape) : Waning shape.stock := by
  induction shape with
  | grid => exact Grid.waning
  | runs => exact Runs.waning
  | calendar inner ih => exact CalendarCursor.waning ih

end TimeBuckets
