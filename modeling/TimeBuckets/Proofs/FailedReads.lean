/-
Reads that fail below grids, and below calendars above grids.

* `Retracing` — cursors that a failed read leaves as they were, or as asking for a value leaves
  them;
* `Restores` — what this means for the calls that read samples;
* `Grid.Twin`, `CalendarCursor.Twin` — a cursor next to the same one above a feed that never fails;
* `Grid.retracing`, `CalendarCursor.retracing` — what each operation does on both sides;
* `failed_reads_undone` — whatever reads fail, one who insists gets what there is without failures.

A call for a value asks first whether there is one, which may open the first bucket, and only then
reads on.  If this second read fails, the bucket stays open.  It makes no difference that it is
opened once more: the sample for which it was opened is still held, and a month gives the bucket
below the width and the end that it has already.
-/
import TimeBuckets.Proofs.CalendarCourse
import TimeBuckets.Proofs.Insisting

namespace TimeBuckets

variable {faults : List (Nat × SourceFault)} {n : Nat}

/-! ### What a failed call leaves behind -/

section Retracing

variable {σ : Type} [BucketCursor σ] {R : Nat → σ → σ → Prop} {c d d' : σ} {call : Call}

/-- Calls for values and buckets give the same on both sides or fail to read a sample.  Then they
have changed nothing that matters, except that the call for a value may have left what asking for a
value leaves, and this makes no difference to any of them. -/
structure Retracing (R : Nat → σ → σ → Prop) : Prop extends Inert R where
  hasValue {n : Nat} {c d : σ} : R n c d → Follows R n ValueStream.hasValue c d
  nextValue {n : Nat} {c d : σ} : R n c d →
    Matches (fun d' => d' = d ∨ ValueStream.hasValue d = .ok true d') R n ValueStream.nextValue c d
  openNext {n : Nat} {c d : σ} : R n c d → Follows R n BucketCursor.openNext c d
  hasValue_again {d d' : σ} :
    ValueStream.hasValue d = .ok true d' → ValueStream.hasValue d' = .ok true d'
  nextValue_again {d d' : σ} :
    ValueStream.hasValue d = .ok true d' → ValueStream.nextValue d' = ValueStream.nextValue d
  openNext_again {d d' : σ} :
    ValueStream.hasValue d = .ok true d' → BucketCursor.openNext d' = BucketCursor.openNext d

/-- A call for a value or a bucket whose last read failed has left a cursor from which all these
calls give what they gave before above the calm feed.  It is this cursor itself but for the reads,
unless the call was for a value: then it may be the one that asking for a value leaves. -/
def Restores (calm : σ → σ) (c : σ) : Prop :=
  ∀ (call : Call) (fault : Fault) (c' : σ), call.reads = true →
    call.perform c = .error fault c' → (BucketCursor.feed c').LastFailed fault →
    (BucketCursor.feed c').readFaults = (BucketCursor.feed c).readFaults ∧
    ∃ d, calm d = calm c' ∧
      (d = calm c ∨ call = .nextValue ∧ ValueStream.hasValue (calm c) = .ok true d) ∧
      ∀ other : Call, other.reads = true → other.perform d = other.perform (calm c)

namespace Retracing

theorem resuming (h : Retracing R) : Resuming R where
  toInert := h.toInert
  hasValue hcd := (h.hasValue hcd).resumes
  nextValue hcd := (h.nextValue hcd).imp fun _ hd' =>
    hd'.elim (congrArg ValueStream.nextValue) h.nextValue_again
  openNext hcd := (h.openNext hcd).resumes

theorem matches_perform (h : Retracing R) (hcall : call.reads = true) (hcd : R n c d) :
    Matches (fun d' => d' = d ∨ call = .nextValue ∧ ValueStream.hasValue d = .ok true d') R n
      call.perform c d := by
  cases call with
  | hasValue => exact ((h.hasValue hcd).imp fun _ => Or.inl).map Reply.more
  | nextValue =>
    exact ((h.nextValue hcd).imp fun _ hd' => hd'.imp_right fun hask => ⟨rfl, hask⟩).map
      Reply.value
  | openNext => exact ((h.openNext hcd).imp fun _ => Or.inl).map fun _ => Reply.done
  | _ => exact absurd hcall Bool.false_ne_true

theorem perform_again (h : Retracing R) (hcall : call.reads = true)
    (hask : ValueStream.hasValue d = .ok true d') : call.perform d' = call.perform d := by
  cases call with
  | hasValue => exact bind_congr_state ((h.hasValue_again hask).trans hask.symm)
  | nextValue => exact bind_congr_state (h.nextValue_again hask)
  | openNext => exact bind_congr_state (h.openNext_again hask)
  | _ => exact absurd hcall Bool.false_ne_true

theorem restores (h : Retracing R) (hcounted : Counted faults R) {calm : σ → σ}
    (hcalm : ∀ {n : Nat} {c d : σ}, R n c d → calm d = calm c) (hc : R n c (calm c)) :
    Restores calm c := by
  intro call fault c' hcall hrun hfailed
  obtain ⟨d, hd, hmissed⟩ := (h.matches_perform hcall hc).of_failed hrun hfailed
  refine ⟨(hcounted hmissed).1.trans (hcounted hc).1.symm, d, hcalm hmissed, hd, ?_⟩
  rintro other hother
  rcases hd with rfl | ⟨-, hask⟩
  · rfl
  · exact h.perform_again hother hask

end Retracing

end Retracing

/-! ### Grids -/

namespace Grid

variable {g d d' : Grid}

/-- The grid above the calm feed. -/
def calm (g : Grid) : Grid := { g with feed := g.feed.calm }

/-- The second grid is the first one above a feed that never fails. -/
inductive Twin (faults : List (Nat × SourceFault)) (n : Nat) (g : Grid) : Grid → Prop
  | mk {f : Feed} (h : g.feed.Twin faults n f) : Twin faults n g { g with feed := f }

theorem twin_calm (g : Grid) : Twin g.feed.readFaults g.feed.reads g g.calm := ⟨g.feed.twin_calm⟩

namespace Twin

theorem calm_eq (h : Twin faults n g d) : d.calm = g.calm := by
  obtain ⟨h⟩ := h
  rw [calm, calm, h.calm_eq]

theorem text_eq (h : Twin faults n g d) : d.text = g.text := by
  obtain ⟨h⟩ := h
  unfold Grid.text
  rw [h.text_eq]
  rfl

theorem phase_eq (h : Twin faults n g d) : d.phase = g.phase := by
  obtain ⟨h⟩ := h
  rfl

theorem counter_eq (h : Twin faults n g d) : d.counter = g.counter := by
  obtain ⟨h⟩ := h
  rfl

theorem boundary_eq (h : Twin faults n g d) : d.boundary = g.boundary := by
  obtain ⟨h⟩ := h
  rfl

theorem bucketEnd_eq (h : Twin faults n g d) : d.bucketEnd = g.bucketEnd := by
  obtain ⟨h⟩ := h
  rfl

theorem bucketTime_eq (h : Twin faults n g d) : d.bucketTime = g.bucketTime := by
  obtain ⟨h⟩ := h
  rfl

theorem hasNext_eq (h : Twin faults n g d) : d.feed.hasNext = g.feed.hasNext := by
  obtain ⟨h⟩ := h
  exact h.hasNext_eq

theorem stock_eq (h : Twin faults n g d) : d.stock = g.stock := by
  obtain ⟨h⟩ := h
  rw [stock, stock, h.remaining_eq]

theorem withPhase (h : Twin faults n g d) {phase phase' : Phase Sample} (heq : phase' = phase) :
    Twin faults n { g with phase := phase } { d with phase := phase' } := by
  obtain ⟨h⟩ := h
  subst heq
  exact ⟨h⟩

theorem setEnd (h : Twin faults n g d) (last : Word) :
    Twin faults n { g with boundary := last } { d with boundary := last } := by
  obtain ⟨h⟩ := h
  exact ⟨h⟩

theorem setWidth (h : Twin faults n g d) (width : Word) :
    Twin faults n (g.setWidth width) (d.setWidth width) := by
  obtain ⟨h⟩ := h
  rw [Grid.setWidth, Grid.setWidth]
  split
  · exact ⟨h⟩
  · exact ⟨h⟩

end Twin

theorem follows_read (h : Twin faults n g d) : Follows (Twin faults) n read g d := by
  obtain ⟨h⟩ := h
  rcases h.next_cases with ⟨s, he, hf⟩ | ⟨he, hf, hread⟩ | ⟨fault, he, hfailed⟩
  · refine Or.inl ?_
    rw [read, read, he, hf]
    exact .ok ⟨h.advanced⟩
  · refine Or.inl ?_
    rw [read, read, he, hf]
    exact .error ⟨h.missed⟩ hread
  · exact Or.inr ⟨_, rfl, .source fault, { g with feed := g.feed.missed }, by rw [read, he],
      hfailed, ⟨h.missed_left⟩⟩

theorem follows_pull (h : Twin faults n g d) : Follows (Twin faults) n pull g d := by
  by_cases hmore : g.feed.hasNext = true
  · have hstep (e : Grid) (he : e.feed.hasNext = true) : pull e = (do
        let s ← read
        modify fun g : Grid => { g with
          phase := if g.counter.isSome && !g.feed.hasNext then .spent else .ready s }) e := by
      rw [pull, get_bind, if_pos he]
    refine Matches.congr (hstep g hmore) (hstep d (h.hasNext_eq.trans hmore)) ?_
    refine (follows_read h).bind fun s g' d' _ _ h' => Or.inl (.ok ?_)
    exact h'.withPhase (by rw [h'.counter_eq, h'.hasNext_eq])
  · have hstep (e : Grid) (he : ¬ e.feed.hasNext = true) :
        pull e = .ok () { e with phase := .spent } := by
      rw [pull, get_bind, if_neg he]
      rfl
    refine Or.inl ?_
    rw [hstep g hmore, hstep d (h.hasNext_eq ▸ hmore)]
    exact .ok (h.withPhase rfl)

theorem answered_openBucket (h : Twin faults n g d) :
    Answered (Twin faults n) (openBucket g) (openBucket d) := by
  rcases hphase : g.phase with _ | s | _
  case ready =>
    have hphase' := h.phase_eq.trans hphase
    rcases hlast : g.bucketEnd s.time with fault | last
    · have hlast' := (congrFun h.bucketEnd_eq s.time).trans hlast
      rw [openBucket_of_error hphase hlast, openBucket_of_error hphase' hlast',
        bucketEnd_error hlast]
      exact .error h (Feed.not_lastFailed_of_ne nofun)
    · have hlast' := (congrFun h.bucketEnd_eq s.time).trans hlast
      rw [openBucket_of_ok hphase hlast, openBucket_of_ok hphase' hlast']
      exact .ok (h.setEnd last)
  all_goals
    rw [openBucket, openBucket, h.phase_eq, hphase]
    exact .ok h

theorem follows_fill (h : Twin faults n g d) : Follows (Twin faults) n fill g d := by
  by_cases hphase : g.phase = .unread
  · have hstep (e : Grid) (he : e.phase = .unread) :
        fill e = (pull >>= fun _ => openBucket) e := by
      rw [fill, get_bind, he]
    refine Matches.congr (hstep g hphase) (hstep d (h.phase_eq.trans hphase)) ?_
    exact (follows_pull h).bind fun _ _ _ _ _ h' => Or.inl (answered_openBucket h')
  · refine Or.inl ?_
    rw [fill_of_begun hphase, fill_of_begun (h.phase_eq ▸ hphase)]
    exact .ok h

theorem follows_hasValue (h : Twin faults n g d) : Follows (Twin faults) n hasValue g d := by
  refine (follows_fill h).bind fun _ g' d' _ _ h' => Or.inl ?_
  rw [get_bind, get_bind, h'.phase_eq, h'.boundary_eq]
  exact .ok h'

theorem follows_openNext (h : Twin faults n g d) : Follows (Twin faults) n openNext g d :=
  (follows_fill h).bind fun _ _ _ _ _ h' => Or.inl (answered_openBucket h')

theorem follows_count (c : Counter) (s : Sample) (h : Twin faults n g d) :
    Follows (Twin faults) n (count c s) g d := by
  refine (follows_read h).bind fun next g' d' _ _ h' => Or.inl ?_
  rw [get_bind, get_bind, h'.text_eq]
  rcases hcheck : checkOrder s next g'.text with fault | _
  · exact .error h' (Feed.not_lastFailed_of_checkOrder hcheck)
  · have hheld : Twin faults n (g'.holding next) (d'.holding next) :=
      h'.withPhase (by rw [h'.hasNext_eq])
    rcases hclocks : c.clocks s next with _ | _
    · rw [Counter.delta_of_not_clocks hclocks]
      exact .error hheld (Feed.not_lastFailed_of_ne nofun)
    · rw [Counter.delta_of_clocks hclocks]
      exact .ok hheld

theorem asked_of_hasValue {more : Bool} (h : hasValue g = .ok more d) :
    d.phase ≠ .unread ∧ hasValue d = .ok more d := course.asked (Classical.em _) h

theorem begun_of_openNext (h : openNext g = .ok () d) : d.phase ≠ .unread := by
  rcases g.openNext_of_readAhead with ⟨g', hahead, hopen⟩ | ⟨fault, -, -, hopen⟩
  · rw [hopen, openBucket_eq hahead.begun] at h
    rcases hend : g'.endFor g'.stock.head? with fault | last
    · rw [hend] at h
      cases h
    · rw [hend] at h
      obtain ⟨-, rfl⟩ := EStateM.Result.ok.inj h
      exact hahead.begun
  · exact absurd (hopen.symm.trans h) nofun

/-- A value that cannot be read leaves the grid as it was, or as asking for a value leaves it. -/
theorem matches_nextValue (h : Twin faults n g d) :
    Matches (fun d' => d' = d ∨ hasValue d = .ok true d') (Twin faults) n nextValue g d := by
  refine ((follows_hasValue h).imp fun _ => Or.inl).bind fun more g' d' _ hask h' => ?_
  cases more with
  | false =>
    refine Or.inl ?_
    rw [get_bind, get_bind, h'.text_eq]
    exact .error h' (Feed.not_lastFailed_of_ne nofun)
  | true =>
    obtain ⟨hbegun, hagain⟩ := asked_of_hasValue hask
    obtain ⟨s, hphase, -⟩ := held_of_hasValue hbegun hagain
    -- from here on only the read that follows the held sample may fail
    have hasked (e : Grid) (he : e = d') : e = d ∨ hasValue d = .ok true e := Or.inr (he ▸ hask)
    rcases hcounter : d'.counter with _ | c
    · refine Matches.congr ?_ ?_ (((follows_pull h').imp hasked).map fun _ => s.toReal)
      · rw [get_bind, if_pos rfl, ← h'.phase_eq, hphase, ← h'.counter_eq, hcounter]
      · rw [get_bind, if_pos rfl, hphase, hcounter]
    · refine Matches.congr ?_ ?_ ((follows_count c s h').imp hasked)
      · rw [get_bind, if_pos rfl, ← h'.phase_eq, hphase, ← h'.counter_eq, hcounter]
      · rw [get_bind, if_pos rfl, hphase, hcounter]

/-- A grid that was asked for a value has read ahead already what it opens a bucket for. -/
theorem openNext_of_hasValue {more : Bool} (h : hasValue g = .ok more d) :
    openNext d = openNext g := by
  have hfill : fill g = .ok () d := by
    obtain ⟨_, g', hfill, hget⟩ := of_bind_ok h
    obtain ⟨-, rfl⟩ := EStateM.Result.ok.inj hget
    exact hfill
  rw [openNext, bind_of_ok hfill, bind_of_ok (fill_of_begun (asked_of_hasValue h).1)]

theorem nextValue_of_hasValue {more : Bool} (h : hasValue g = .ok more d) :
    nextValue d = nextValue g := by
  rw [nextValue, bind_of_ok h, bind_of_ok (asked_of_hasValue h).2]

theorem bucketTime_ne (g : Grid) (read : SourceFault) : g.bucketTime ≠ .error (.source read) := by
  intro h
  rw [bucketTime] at h
  split at h
  · rw [align] at h
    split at h
    · cases h
    · cases h
  · cases h

theorem retracing : Retracing (Twin faults) where
  bucketTime h := h.bucketTime_eq.symm
  bucketTime_ne := bucketTime_ne
  setWidth width h := h.setWidth width
  setEnd last h := h.setEnd last
  hasValue h := follows_hasValue h
  nextValue h := matches_nextValue h
  openNext h := follows_openNext h
  hasValue_again h := (asked_of_hasValue h).2
  nextValue_again h := nextValue_of_hasValue h
  openNext_again h := openNext_of_hasValue h

theorem counted : Counted faults (Twin faults) := fun h => by
  obtain ⟨h⟩ := h
  exact ⟨h.faults_eq, h.reads_le⟩

end Grid

/-! ### Calendars above grids -/

namespace CalendarCursor

variable {c d c' d' : CalendarCursor Grid}

/-- The calendar above the calm feed. -/
def calm (c : CalendarCursor Grid) : CalendarCursor Grid := { c with inner := c.inner.calm }

/-- The second calendar is the first one above a feed that never fails. -/
inductive Twin (faults : List (Nat × SourceFault)) (n : Nat) (c : CalendarCursor Grid) :
    CalendarCursor Grid → Prop
  | mk {g : Grid} (h : c.inner.Twin faults n g) : Twin faults n c { c with inner := g }

theorem twin_calm (c : CalendarCursor Grid) :
    Twin c.inner.feed.readFaults c.inner.feed.reads c c.calm := ⟨c.inner.twin_calm⟩

namespace Twin

theorem inner (h : Twin faults n c d) : c.inner.Twin faults n d.inner := by
  obtain ⟨h⟩ := h
  exact h

theorem calm_eq (h : Twin faults n c d) : d.calm = c.calm := by
  obtain ⟨h⟩ := h
  rw [calm, calm, h.calm_eq]

theorem phase_eq (h : Twin faults n c d) : d.phase = c.phase := by
  obtain ⟨h⟩ := h
  rfl

theorem unitAround_eq (h : Twin faults n c d) : d.unitAround = c.unitAround := by
  obtain ⟨h⟩ := h
  rfl

theorem text_eq (h : Twin faults n c d) : d.text = c.text := by
  obtain @⟨g, h⟩ := h
  have htext : BucketCursor.text g = BucketCursor.text c.inner := h.text_eq
  unfold CalendarCursor.text
  rw [htext]

theorem bucketTime_eq (h : Twin faults n c d) : d.bucketTime = c.bucketTime := by
  have htext := h.text_eq
  obtain ⟨h⟩ := h
  rw [bucketTime, bucketTime, htext]
  rfl

theorem pendingTime_eq (h : Twin faults n c d) :
    BucketCursor.pendingTime d.inner = BucketCursor.pendingTime c.inner :=
  congrArg (fun phase => phase.held?.map Sample.time) h.inner.phase_eq

theorem withPhase (h : Twin faults n c d) (phase : Phase Word) :
    Twin faults n { c with phase := phase } { d with phase := phase } := by
  obtain ⟨h⟩ := h
  exact ⟨h⟩

theorem pin (h : Twin faults n c d) (start : Date) (last : Word) :
    Twin faults n (c.pin start last) (d.pin start last) := by
  obtain ⟨h⟩ := h
  rw [CalendarCursor.pin, CalendarCursor.pin]
  rcases c.unit.width? start with _ | width
  · exact ⟨h.setEnd last⟩
  · exact ⟨(h.setWidth width).setEnd last⟩

end Twin

theorem matches_below {α : Type} {P : Grid → Prop} {run : EStateM Fault Grid α}
    (h : Twin faults n c d) (hrun : Matches P (Grid.Twin faults) n run c.inner d.inner) :
    Matches (fun d' => ∃ g, P g ∧ d' = { d with inner := g }) (Twin faults) n (below run) c d := by
  obtain ⟨-⟩ := h
  rcases hrun with hanswered | ⟨g, hg, fault, g', hrun, hfailed, hmissed⟩
  · refine Or.inl ?_
    rw [below, below]
    generalize run c.inner = x at hanswered ⊢
    generalize run _ = y at hanswered ⊢
    cases hanswered with
    | ok h => exact .ok ⟨h⟩
    | error h hread => exact .error ⟨h⟩ hread
  · exact Or.inr ⟨_, ⟨g, hg, rfl⟩, fault, { c with inner := g' }, below_of_error hrun, hfailed,
      ⟨hmissed⟩⟩

theorem follows_below {α : Type} {run : EStateM Fault Grid α} (h : Twin faults n c d)
    (hrun : Follows (Grid.Twin faults) n run c.inner d.inner) :
    Follows (Twin faults) n (below run) c d := by
  refine (matches_below h hrun).imp ?_
  rintro _ ⟨g, rfl, rfl⟩
  rfl

theorem underway_of_openUnit (h : openUnit c = .ok () c') : Underway c' := by
  rcases opening_openUnit c with ⟨g, hahead, hopening⟩ | ⟨fault, -, -, hopen⟩
  · rw [h] at hopening
    exact (hopening.of_ok hahead.begun).1
  · exact absurd (hopen.symm.trans h) nofun

/-- Only opening the bucket below may read a sample. -/
theorem follows_openUnit (h : Twin faults n c d) : Follows (Twin faults) n openUnit c d := by
  refine (follows_below h (Grid.follows_openNext h.inner)).bind fun _ c' d' hopen _ h' => Or.inl ?_
  -- the grid below has begun to read by now, so that it answers without a read
  have hbegun : c'.inner.phase ≠ .unread := by
    obtain ⟨g, hgrid, rfl⟩ := of_below_ok hopen
    exact Grid.begun_of_openNext hgrid
  have hmore : below ValueStream.hasValue c'
      = .ok (c'.inner.stock.head?.any (Sample.isBefore c'.inner.boundary)) c' :=
    below_of_ok (Grid.hasValue_of_begun hbegun)
  have hmore' : below ValueStream.hasValue d'
      = .ok (c'.inner.stock.head?.any (Sample.isBefore c'.inner.boundary)) d' := by
    rw [← h'.inner.stock_eq, ← h'.inner.boundary_eq]
    exact below_of_ok (Grid.hasValue_of_begun (h'.inner.phase_eq ▸ hbegun))
  generalize c'.inner.stock.head?.any (Sample.isBefore c'.inner.boundary) = more at hmore hmore'
  rw [bind_of_ok hmore, bind_of_ok hmore', get_bind, get_bind, h'.pendingTime_eq]
  generalize (if more = true then BucketCursor.pendingTime c'.inner else none) = next
  rcases next with _ | time
  · exact .ok (h'.withPhase .spent)
  · have haround := congrFun h'.unitAround_eq time
    rcases haround' : c'.unitAround time with fault | ⟨start, last⟩
    · simp only [haround, haround']
      refine .error h' (Feed.not_lastFailed_of_ne fun read hread => ?_)
      exact absurd ((withinRange_unitAround c' time fault haround').symm.trans hread) nofun
    · simp only [haround, haround']
      exact .ok (h'.pin start last)

theorem hasValue_eq_openUnit (hphase : c.phase = .unread) :
    hasValue c = (openUnit >>= fun _ => hasValue) c := by
  rcases hopen : openUnit c with ⟨_, c'⟩ | ⟨fault, c'⟩
  · rw [bind_of_ok hopen]
    exact hasValue_of_openUnit hphase hopen (underway_of_openUnit hopen).opened
  · have hfill : fill c = .error fault c' := by
      rw [fill, get_bind, hphase]
      exact hopen
    rw [hasValue, bind_of_error hfill, bind_of_error hopen]

/-- What a calendar in an open unit asks the grid below. -/
def askBelow (last : Word) : EStateM Fault (CalendarCursor Grid) Bool := do
  if ← below ValueStream.hasValue then
    return match BucketCursor.pendingTime (← get).inner with
      | some time => time < last
      | none => false
  else
    return false

theorem hasValue_eq_askBelow {last : Word} (hphase : c.phase = .ready last) :
    hasValue c = askBelow last c := by
  rw [hasValue, bind_of_ok (fill_of_begun (hphase ▸ Phase.ready_ne_unread last)), get_bind, hphase]
  rfl

theorem follows_hasValue_of_begun (hphase : c.phase ≠ .unread) (h : Twin faults n c d) :
    Follows (Twin faults) n hasValue c d := by
  rcases hphase' : c.phase with _ | last | _
  · exact absurd hphase' hphase
  · refine Matches.congr (hasValue_eq_askBelow hphase')
      (hasValue_eq_askBelow (h.phase_eq.trans hphase')) ?_
    refine (follows_below h (Grid.follows_hasValue h.inner)).bind fun more c' d' _ _ h' =>
      Or.inl ?_
    cases more with
    | false => exact .ok h'
    | true =>
      rw [if_pos rfl, get_bind, get_bind, h'.pendingTime_eq]
      exact .ok h'
  · have hended : hasValue c = .ok false c := ended_of_spent hphase'
    have hended' : hasValue d = .ok false d := ended_of_spent (h.phase_eq.trans hphase')
    refine Or.inl ?_
    rw [hended, hended']
    exact .ok h

/-- Asking for a value reads samples only to open the first unit, and then no more. -/
theorem follows_hasValue (h : Twin faults n c d) : Follows (Twin faults) n hasValue c d := by
  by_cases hphase : c.phase = .unread
  · refine Matches.congr (hasValue_eq_openUnit hphase)
      (hasValue_eq_openUnit (h.phase_eq.trans hphase)) ?_
    refine (follows_openUnit h).bind fun _ c' d' hopen _ h' => ?_
    have hunderway := underway_of_openUnit hopen
    obtain ⟨more, hmore⟩ := hunderway.hasValue_eq
    refine (follows_hasValue_of_begun hunderway.opened h').imp_right ?_
    rintro ⟨_, -, fault, c'', hrun, -⟩
    exact absurd (hmore.symm.trans hrun) nofun
  · exact follows_hasValue_of_begun hphase h

theorem openNext_eq_openUnit (hphase : c.phase ≠ .spent) : openNext c = openUnit c := by
  rcases hphase' : c.phase with _ | last | _
  case spent => exact absurd hphase' hphase
  all_goals rw [openNext, get_bind, hphase']

theorem follows_openNext (h : Twin faults n c d) : Follows (Twin faults) n openNext c d := by
  by_cases hphase : c.phase = .spent
  · refine Or.inl ?_
    rw [openNext, get_bind, get_bind, h.phase_eq, hphase]
    exact .ok h
  · exact Matches.congr (openNext_eq_openUnit hphase)
      (openNext_eq_openUnit (h.phase_eq ▸ hphase)) (follows_openUnit h)

/-- A calendar that says that it has a value has opened a unit, and has a value below. -/
structure Asked (c c₁ c' : CalendarCursor Grid) (last : Word) : Prop where
  filled : fill c = .ok () c₁
  ready : c₁.phase = .ready last
  eq : c' = { c₁ with inner := c'.inner }
  below : Grid.hasValue c₁.inner = .ok true c'.inner
  again : hasValue c' = .ok true c'

theorem asked_of_hasValue (h : hasValue c = .ok true c') : ∃ c₁ last, Asked c c₁ c' last := by
  rw [hasValue] at h
  obtain ⟨_, c₁, hfill, h⟩ := of_bind_ok h
  rw [get_bind] at h
  rcases hphase : c₁.phase with _ | last | _
  case ready =>
    rw [hphase] at h
    obtain ⟨more, c₂, hmore, h⟩ := of_bind_ok h
    obtain ⟨g, hgrid, rfl⟩ := of_below_ok hmore
    cases more with
    | false => cases h
    | true =>
      rw [if_pos rfl, get_bind] at h
      obtain ⟨-, rfl⟩ := EStateM.Result.ok.inj h
      refine ⟨c₁, last, hfill, hphase, rfl, hgrid, ?_⟩
      have hagain : CalendarCursor.below ValueStream.hasValue { c₁ with inner := g }
          = .ok true { c₁ with inner := g } :=
        below_of_ok (Grid.asked_of_hasValue hgrid).2
      rw [hasValue_eq_askBelow (c := { c₁ with inner := g }) hphase, askBelow, bind_of_ok hagain,
        if_pos rfl]
      exact h
  all_goals
    rw [hphase] at h
    cases h

theorem matches_nextValue (h : Twin faults n c d) :
    Matches (fun d' => d' = d ∨ hasValue d = .ok true d') (Twin faults) n nextValue c d := by
  refine ((follows_hasValue h).imp fun _ => Or.inl).bind fun more c' d' _ hask h' => ?_
  cases more with
  | false =>
    refine Or.inl ?_
    rw [if_neg Bool.false_ne_true, get_bind, get_bind, h'.text_eq]
    exact .error h' (Feed.not_lastFailed_of_ne nofun)
  | true =>
    rw [if_pos rfl]
    refine (matches_below h' (Grid.matches_nextValue h'.inner)).imp ?_
    rintro _ ⟨g, rfl | hg, rfl⟩
    · exact Or.inr hask
    -- the grid below was asked already, and is not changed when it is asked again
    · obtain ⟨c₁, last, hasked⟩ := asked_of_hasValue hask
      have hsame := (Grid.hasValue_of_begun (Grid.asked_of_hasValue hasked.below).1).symm.trans hg
      obtain ⟨-, rfl⟩ := EStateM.Result.ok.inj hsame
      exact Or.inr hask

/-! ### Units that are opened again -/

/-- What opening the bucket below moves is moved back. -/
theorem pin_pin (start : Date) (last edge : Word) :
    pin { c.pin start last with inner := { (c.pin start last).inner with boundary := edge } } start
      last = c.pin start last := by
  rcases hwidth : c.unit.width? start with _ | width
  · simp only [pin, hwidth]
    rfl
  · by_cases hpos : 0 < width
    · rw [pin_of_width (c := { c.pin start last with
        inner := { (c.pin start last).inner with boundary := edge } }) hwidth hpos last,
        pin_of_width hwidth hpos last]
    · have hsame (g : Grid) : BucketCursor.setWidth width g = g := dif_neg hpos
      simp only [pin, hwidth, hsame]
      rfl

/-- The width of a month does not put a time out of range that has a date. -/
theorem exists_bucketEnd_pin {time last edge : Word} {start : Date}
    (haround : c.unitAround time = .ok (start, last)) (hend : c.inner.bucketEnd time = .ok edge) :
    ∃ edge', (c.pin start last).inner.bucketEnd time = .ok edge' := by
  obtain ⟨date, next, hdate, rfl, hnext, -⟩ := of_unitAround haround
  rcases CalendarUnit.width_of_next hnext with ⟨-, hnone⟩ | ⟨width, -, hsome, hpos, hle⟩
  · refine ⟨edge, ?_⟩
    rw [pin, hnone]
    exact hend
  · rw [pin_of_width hsome (Int64.lt_iff_toInt_lt.mpr hpos)]
    obtain ⟨edge', hend', -⟩ := Grid.bucketEnd_of_fits (g := { c.inner with
      width := width, width_pos := Int64.lt_iff_toInt_lt.mpr hpos, boundary := last })
      (CalendarUnit.fits_of_dated hdate hpos hle _)
    exact ⟨edge', hend'⟩

/-- A sample that was read and whose bucket and unit are in range has its unit opened. -/
theorem openUnit_of_held {s : Sample} {edge last : Word} {start : Date}
    (hheld : c.inner.phase = .ready s) (hend : c.inner.bucketEnd s.time = .ok edge)
    (haround : c.unitAround s.time = .ok (start, last)) :
    openUnit c = .ok () (pin { c with inner := { c.inner with boundary := edge } } start last) := by
  have hbegun : c.inner.phase ≠ .unread := hheld ▸ Phase.ready_ne_unread s
  rcases opening_openUnit c with ⟨g, hahead, hopening⟩ | ⟨fault, hunread, -, -⟩
  · obtain rfl := hahead.eq_of_begun hbegun
    generalize openUnit c = x at hopening ⊢
    cases hopening with
    | spent hspent => exact absurd (hheld.symm.trans hspent) nofun
    | noBucket hheld' hnone =>
      obtain rfl := Phase.ready.inj (hheld.symm.trans hheld')
      exact absurd (hend.symm.trans hnone) nofun
    | noUnit hheld' _ hnone =>
      obtain rfl := Phase.ready.inj (hheld.symm.trans hheld')
      exact absurd (haround.symm.trans hnone) nofun
    | opened hheld' hend' haround' =>
      obtain rfl := Phase.ready.inj (hheld.symm.trans hheld')
      obtain ⟨rfl, rfl⟩ := Prod.mk.inj (Except.ok.inj (haround.symm.trans haround'))
      obtain rfl := Except.ok.inj (hend.symm.trans hend')
      rfl
  · exact absurd hunread hbegun

/-- Opening the unit that is open changes nothing. -/
theorem openUnit_of_openUnit {last : Word} (h : openUnit c = .ok () c')
    (hready : c'.phase = .ready last) : openUnit c' = .ok () c' := by
  rcases opening_openUnit c with ⟨g, -, hopening⟩ | ⟨fault, -, -, hopen⟩
  · rw [h] at hopening
    cases hopening with
    | spent _ => exact absurd hready nofun
    | @opened s edge last start hheld hend haround =>
      -- the bucket below is opened anew, with the width of the unit, and then made to end with it
      obtain ⟨-, -, hphase, -⟩ :=
        inner_pin (c := { c with inner := { g with boundary := edge } }) start last
      obtain ⟨edge', hend'⟩ := exists_bucketEnd_pin
        (c := { c with inner := { g with boundary := edge } }) haround hend
      rw [openUnit_of_held (hphase.trans hheld) hend' haround, pin_pin]
  · exact absurd (hopen.symm.trans h) nofun

/-- A calendar that has opened a unit for its answer opens the same one again. -/
theorem openNext_of_hasValue (h : hasValue c = .ok true c') : openNext c' = openNext c := by
  obtain ⟨c₁, last, hasked⟩ := asked_of_hasValue h
  have hready : c'.phase = .ready last := by
    rw [hasked.eq]
    exact hasked.ready
  rw [openNext_eq_openUnit (hready ▸ Phase.ready_ne_spent last)]
  by_cases hphase : c.phase = .unread
  -- the unit was opened for the answer
  · have hopen : openUnit c = .ok () c₁ := by
      have hfill := hasked.filled
      rwa [fill, get_bind, hphase] at hfill
    have hbegun := (underway_of_openUnit hopen).begun
    have hsame := (Grid.hasValue_of_begun hbegun).symm.trans hasked.below
    have heq := hasked.eq
    rw [← (EStateM.Result.ok.inj hsame).2] at heq
    subst heq
    rw [openNext_eq_openUnit (hphase ▸ Phase.unread_ne_spent), hopen,
      openUnit_of_openUnit hopen hready]
  -- only the grid below may have read ahead for it
  · have hfill := hasked.filled
    rw [fill_of_begun hphase] at hfill
    obtain ⟨-, rfl⟩ := EStateM.Result.ok.inj hfill
    rw [openNext_eq_openUnit (hasked.ready ▸ Phase.ready_ne_spent last)]
    refine bind_congr_state ?_
    have hgrid : BucketCursor.openNext c'.inner = BucketCursor.openNext c.inner :=
      Grid.openNext_of_hasValue hasked.below
    rw [hasked.eq, below, below, hgrid]

theorem nextValue_of_hasValue (h : hasValue c = .ok true c') : nextValue c' = nextValue c := by
  obtain ⟨c₁, last, hasked⟩ := asked_of_hasValue h
  rw [nextValue, bind_of_ok h, bind_of_ok hasked.again]

theorem bucketTime_ne (c : CalendarCursor Grid) (read : SourceFault) :
    c.bucketTime ≠ .error (.source read) := by
  intro h
  rcases hphase : c.phase with _ | last | _
  case ready => exact absurd (withinRange_bucketTime hphase _ h) nofun
  all_goals
    rw [bucketTime, hphase] at h
    cases h

theorem retracing : Retracing (Twin faults) where
  bucketTime h := h.bucketTime_eq.symm
  bucketTime_ne := bucketTime_ne
  setWidth _ h := h
  setEnd _ h := h
  hasValue h := follows_hasValue h
  nextValue h := matches_nextValue h
  openNext h := follows_openNext h
  hasValue_again h := by
    obtain ⟨c₁, last, hasked⟩ := asked_of_hasValue h
    exact hasked.again
  nextValue_again h := nextValue_of_hasValue h
  openNext_again h := openNext_of_hasValue h

theorem counted : Counted faults (Twin faults) := fun h => by
  obtain ⟨h⟩ := h
  exact Grid.counted h

end CalendarCursor

/-! ### Failed reads -/

/-- A read that fails below a grid, or below a calendar above a grid, leaves the cursor as it was
but for the reads, or as asking for a value leaves it if a value was to be taken.  The calls that
read samples then give what they would have given, and calls on which one insists give what they
give when no read fails. -/
theorem failed_reads_undone :
    (∀ g : Grid, Restores Grid.calm g ∧ Recovers Grid.calm g) ∧
    ∀ c : CalendarCursor Grid, Restores CalendarCursor.calm c ∧ Recovers CalendarCursor.calm c := by
  refine ⟨fun g => ⟨?_, ?_⟩, fun c => ⟨?_, ?_⟩⟩
  · exact Grid.retracing.restores Grid.counted Grid.Twin.calm_eq g.twin_calm
  · exact Grid.retracing.resuming.recovers Grid.counted Grid.Twin.calm_eq g.twin_calm
  · exact CalendarCursor.retracing.restores CalendarCursor.counted CalendarCursor.Twin.calm_eq
      c.twin_calm
  · exact CalendarCursor.retracing.resuming.recovers CalendarCursor.counted
      CalendarCursor.Twin.calm_eq c.twin_calm

/-- Two samples, of which the second one cannot be read at first, and then can. -/
theorem failed_reads_undone_of_two :
    ∃ g g' d : Grid, ∃ fault : SourceFault,
      Grid.make { Feed.ofSamples [⟨25, .whole 1⟩, ⟨27, .whole 2⟩] with readFaults := [(2, fault)] }
        10 0 none = .ok g ∧
      Call.nextValue.perform g = .error (.source fault) g' ∧ d.calm = g'.calm ∧
      Call.nextValue.perform d = Call.nextValue.perform g.calm ∧
      ∃ replies last, Insisted [.nextValue, .nextValue] g replies last ∧
        replies = (performAll [.nextValue, .nextValue] g.calm).1 := by
  obtain ⟨g, hmake⟩ : ∃ g, Grid.make { Feed.ofSamples [⟨25, .whole 1⟩, ⟨27, .whole 2⟩] with
    readFaults := [(2, .disorderReported "second read")] } 10 0 none = .ok g := ⟨_, rfl⟩
  obtain ⟨g', hrun, hfailed⟩ : ∃ g', Call.nextValue.perform g
        = .error (.source (.disorderReported "second read")) g' ∧
      (BucketCursor.feed g').LastFailed (.source (.disorderReported "second read")) := by
    obtain rfl := Except.ok.inj hmake
    exact ⟨_, rfl, _, rfl, rfl⟩
  obtain ⟨hrestores, hrecovers⟩ := failed_reads_undone.1 g
  obtain ⟨-, d, hcalm, -, hsame⟩ := hrestores .nextValue _ g' rfl hrun hfailed
  obtain ⟨⟨replies, last, hlast⟩, heq⟩ := hrecovers [.nextValue, .nextValue] (by decide)
  exact ⟨g, g', d, _, hmake, hrun, hcalm, hsame .nextValue rfl, replies, last, hlast,
    (heq replies last hlast).1⟩

/-- The second read fails, and taking a value has opened the first bucket by then. -/
theorem failed_value_opens_bucket :
    ∃ g g' : Grid, ∃ fault : SourceFault,
      Grid.make { Feed.ofSamples [⟨25, .whole 1⟩, ⟨27, .whole 2⟩] with readFaults := [(2, fault)] }
        10 0 none = .ok g ∧
      Call.nextValue.perform g = .error (.source fault) g' ∧
      g'.feed.LastFailed (.source fault) ∧
      g.bucketTime = .ok 0 ∧ g'.bucketTime = .ok 20 ∧
      BucketCursor.pendingTime g = none ∧ BucketCursor.pendingTime g' = some 25 :=
  ⟨_, _, .disorderReported "second read", rfl, rfl, ⟨_, rfl, rfl⟩, rfl, rfl, rfl, rfl⟩

end TimeBuckets
