/-
How many samples cursors read, and when.

* `Pace` — what a cursor was asked for since the last jump, and how many reads are due for it;
* `Meter` — a cursor that is called, next to its pace;
* `Paces` — what the operations of a cursor do to its pace, whatever their results;
* `Grid.paces` — a grid reads one sample more than the values that were taken, if there is one;
* `CalendarCursor.paces` — a calendar reads what the cursor below reads;
* `Stack.lazily_callAll` — the reads of grids, and of calendars above them, after any calls.

Readings and counters are treated alike: in both cases taking a value reads ahead once more, even if
it comes out that a counter cannot count it.  A calendar asks the cursor below again and again while it
opens a unit, which reads nothing: a pace that was asked stays as it is when it is asked again.
-/
import TimeBuckets.Proofs.Insisting
import TimeBuckets.Proofs.Rest

namespace TimeBuckets

/-! ### Paces -/

/-- The reads before the last jump that succeeded or before the start, the samples that were then
left, the values that were taken since, those included that could not be counted, and whether the
cursor was asked for any since. -/
structure Pace where
  before : Nat
  left : Nat
  taken : Nat
  asked : Bool

namespace Pace

/-- The pace at the place of a feed, before anything is asked. -/
def start (f : Feed) : Pace := ⟨f.reads, f.left, 0, false⟩

def ask (p : Pace) : Pace := { p with asked := true }

def take (p : Pace) : Pace := { p with taken := p.taken + 1, asked := true }

/-- A value that cannot be counted is lost, and any other failure is like asking for one. -/
def fail (p : Pace) : Fault → Pace
  | .overflow => p.take
  | _ => p.ask

/-- The reads since the last jump: none before the cursor is asked for values, and then one more
than the values that were taken, as long as samples are left. -/
def due (p : Pace) : Nat := if p.asked then min p.left (p.taken + 1) else 0

variable {p : Pace}

theorem ask_of_asked (h : p.asked = true) : p.ask = p := by rw [ask, ← h]

theorem fail_of_ne {fault : Fault} (h : fault ≠ .overflow) : p.fail fault = p.ask := by
  cases fault with
  | overflow => exact absurd rfl h
  | _ => rfl

theorem fail_ask (fault : Fault) : p.ask.fail fault = p.fail fault := by
  cases fault with
  | _ => rfl

theorem asked_fail (fault : Fault) : (p.fail fault).asked = true := by
  cases fault with
  | _ => rfl

theorem due_of_asked (h : p.asked = true) : p.due = min p.left (p.taken + 1) := if_pos h

theorem due_of_not_asked (h : p.asked = false) : p.due = 0 := by
  rw [due, h]
  rfl

end Pace

/-- A cursor and its pace. -/
structure Meter (σ : Type) where
  cursor : σ
  pace : Pace

namespace Meter

variable {σ : Type} [BucketCursor σ]

def start (c : σ) : Meter σ := ⟨c, .start (BucketCursor.feed c)⟩

/-- The meter of a jump, which begins anew only if it succeeds. -/
def jump (m : Meter σ) (run : EStateM Fault σ Unit) : Meter σ :=
  match run m.cursor with
  | .ok _ c => start c
  | .error _ c => { m with cursor := c }

/-- The meter of a call, whether it succeeds or fails. -/
def call (m : Meter σ) : Call → Meter σ
  | .hasValue => ⟨after ValueStream.hasValue m.cursor, m.pace.ask⟩
  | .nextValue =>
    match ValueStream.nextValue m.cursor with
    | .ok _ c => ⟨c, m.pace.take⟩
    | .error fault c => ⟨c, m.pace.fail fault⟩
  | .bucketTime => { m with cursor := after readBucketTime m.cursor }
  | .openNext => ⟨after BucketCursor.openNext m.cursor, m.pace.ask⟩
  | .seek time => m.jump (BucketCursor.seek time)
  | .reposition time => m.jump (BucketCursor.reposition time)
  | .setWidth width => { m with cursor := BucketCursor.setWidth width m.cursor }
  | .setEnd last => { m with cursor := BucketCursor.setEnd last m.cursor }

def callAll (m : Meter σ) (calls : List Call) : Meter σ := calls.foldl call m

end Meter

/-- The reads of the cursor are those that are due, and a call that is for no value reads
nothing. -/
structure Lazily {σ : Type} [BucketCursor σ] (m : Meter σ) : Prop where
  reads : (BucketCursor.feed m.cursor).reads = m.pace.before + m.pace.due
  quiet (call : Call) (h : call.reads = false) :
    (BucketCursor.feed (m.call call).cursor).reads = (BucketCursor.feed m.cursor).reads

/-! ### Operations keep the pace -/

section Paces

variable {σ : Type} [BucketCursor σ]

/-- Taking a value is a step of the pace, whether it is given or lost, and any other failure is like
asking for one. -/
def Treads (Paced : Pace → σ → Prop) (run : EStateM Fault σ Float) : Prop :=
  ∀ p c, Paced p c → match run c with
    | .ok _ c' => Paced p.take c'
    | .error fault c' => Paced (p.fail fault) c'

/-- A jump begins anew without a read, and a failure changes nothing. -/
def Restarts (Paced : Pace → σ → Prop) (run : EStateM Fault σ Unit) : Prop :=
  ∀ p c, Paced p c → match run c with
    | .ok _ c' => Paced (.start (BucketCursor.feed c')) c' ∧
        (BucketCursor.feed c').reads = (BucketCursor.feed c).reads
    | .error _ c' => Paced p c'

/-- The cursors that are at a pace have read as much as is due, and all operations keep to it.  Only
taking a value may fail because it cannot be counted. -/
structure Paces (Paced : Pace → σ → Prop) : Prop where
  reads {p : Pace} {c : σ} : Paced p c → (BucketCursor.feed c).reads = p.before + p.due
  hasValue {p : Pace} {c : σ} : Paced p c → Paced p.ask (after ValueStream.hasValue c)
  nextValue : Treads Paced (ValueStream.nextValue (σ := σ))
  openNext {p : Pace} {c : σ} : Paced p c → Paced p.ask (after BucketCursor.openNext c)
  seek (time : Word) : Restarts Paced (BucketCursor.seek (σ := σ) time)
  reposition (time : Word) : Restarts Paced (BucketCursor.reposition (σ := σ) time)
  setWidth {p : Pace} {c : σ} (width : Word) : Paced p c → Paced p (BucketCursor.setWidth width c)
  setEnd {p : Pace} {c : σ} (last : Word) : Paced p c → Paced p (BucketCursor.setEnd last c)
  hasValue_fault : FaultsIn (· ≠ .overflow) (ValueStream.hasValue (σ := σ))
  openNext_fault : FaultsIn (· ≠ .overflow) (BucketCursor.openNext (σ := σ))

variable {Paced : Pace → σ → Prop} {m : Meter σ}

/-- A jump keeps the cursor at its pace and leaves the number of reads as it was. -/
theorem Paces.paced_jump (h : Paces Paced) {run : EStateM Fault σ Unit}
    (hrun : Restarts Paced run) (hm : Paced m.pace m.cursor) :
    Paced (m.jump run).pace (m.jump run).cursor ∧
      (BucketCursor.feed (m.jump run).cursor).reads = (BucketCursor.feed m.cursor).reads := by
  have hjump := hrun m.pace m.cursor hm
  rcases hresult : run m.cursor with ⟨_, c⟩ | ⟨fault, c⟩
  · rw [hresult] at hjump
    rw [Meter.jump, hresult]
    exact hjump
  · rw [hresult] at hjump
    rw [Meter.jump, hresult]
    exact ⟨hjump, (h.reads hjump).trans (h.reads hm).symm⟩

theorem paced_readBucketTime {p : Pace} {c : σ} (hc : Paced p c) :
    Paced p (after readBucketTime c) :=
  keeps_readBucketTime (P := Paced p) c hc

theorem Paces.paced_call (h : Paces Paced) (hm : Paced m.pace m.cursor) (call : Call) :
    Paced (m.call call).pace (m.call call).cursor := by
  cases call with
  | hasValue => exact h.hasValue hm
  | bucketTime => exact paced_readBucketTime hm
  | openNext => exact h.openNext hm
  | seek time => exact (h.paced_jump (h.seek time) hm).1
  | reposition time => exact (h.paced_jump (h.reposition time) hm).1
  | setWidth width => exact h.setWidth width hm
  | setEnd last => exact h.setEnd last hm
  | nextValue =>
    have hnext := h.nextValue m.pace m.cursor hm
    rcases hrun : ValueStream.nextValue m.cursor with ⟨v, c⟩ | ⟨fault, c⟩
    · rw [hrun] at hnext
      rwa [Meter.call, hrun]
    · rw [hrun] at hnext
      rwa [Meter.call, hrun]

theorem Paces.paced_callAll (h : Paces Paced) (calls : List Call) :
    ∀ {m : Meter σ}, Paced m.pace m.cursor →
      Paced (m.callAll calls).pace (m.callAll calls).cursor := by
  induction calls with
  | nil => exact fun hm => hm
  | cons call rest ih => exact fun hm => ih (h.paced_call hm call)

theorem Paces.lazily (h : Paces Paced) (hm : Paced m.pace m.cursor) : Lazily m := by
  have hsame {c : σ} (hc : Paced m.pace c) :
      (BucketCursor.feed c).reads = (BucketCursor.feed m.cursor).reads :=
    (h.reads hc).trans (h.reads hm).symm
  refine ⟨h.reads hm, fun call hquiet => ?_⟩
  cases call with
  | hasValue => exact absurd hquiet (by decide)
  | nextValue => exact absurd hquiet (by decide)
  | openNext => exact absurd hquiet (by decide)
  | bucketTime => exact hsame (paced_readBucketTime hm)
  | seek time => exact (h.paced_jump (h.seek time) hm).2
  | reposition time => exact (h.paced_jump (h.reposition time) hm).2
  | setWidth width => exact hsame (h.setWidth width hm)
  | setEnd last => exact hsame (h.setEnd last hm)

end Paces

/-! ### Grids -/

/-- Reading ahead takes one sample with one read, if a sample is left. -/
theorem Feed.pulled_counts (f : Feed) :
    f.pulled.reads = f.reads + min f.left 1 ∧ f.pulled.left + min f.left 1 = f.left := by
  rw [pulled, hasNext_eq]
  rcases hrem : f.remaining with _ | ⟨s, rest⟩
  · have hleft : f.left = 0 := by rw [left_eq, hrem, List.length_nil]
    rw [hleft]
    exact ⟨rfl, hleft⟩
  · have hleft := left_advanced hrem
    have hone : min f.left 1 = 1 := by omega
    rw [hone]
    exact ⟨rfl, hleft⟩

namespace Grid

variable {counter : Option Counter} {p : Pace} {g : Grid} {values : List Float}

/-- The grid has read as much as is due.  It has begun if it was asked, and what it then holds was
not taken. -/
structure OnPace (p : Pace) (g : Grid) : Prop where
  reads : g.feed.reads = p.before + p.due
  left : g.feed.left + p.due = p.left
  begun : p.asked = true ↔ g.phase ≠ .unread
  fresh : p.asked = false → p.taken = 0
  held : g.phase.isReady = true → p.taken < p.left

/-- The values ahead are those of samples that the grid holds or has still to read, and it has read
as much as is due. -/
def Paced (counter : Option Counter) (p : Pace) (g : Grid) : Prop :=
  (∃ values, Stocked counter g values) ∧ g.OnPace p

theorem keeps_openBucket_paced : Keeps (Paced counter p) openBucket :=
  keeps_of_setEnd fun _ last h =>
    ⟨h.1.imp fun _ hvalues => hvalues.setEnd last, h.2.reads, h.2.left, h.2.begun, h.2.fresh,
      h.2.held⟩

/-- When nothing is held that was not taken, reading ahead is what is due to a grid that is
asked. -/
theorem paced_started (h : Stocked counter g values)
    (hreads : g.feed.reads = p.before + p.taken) (hleft : g.feed.left + p.taken = p.left) :
    Paced counter p.ask g.started := by
  obtain ⟨hcount, hrest⟩ := g.feed.pulled_counts
  have hdue : p.ask.due = min p.left (p.taken + 1) := Pace.due_of_asked rfl
  refine ⟨⟨_, stocked_started h.sourced⟩, ?_, ?_, ?_, nofun, fun hready => ?_⟩
  · rw [hdue]
    show g.feed.pulled.reads = p.before + min p.left (p.taken + 1)
    omega
  · rw [hdue]
    show g.feed.pulled.left + min p.left (p.taken + 1) = p.left
    omega
  · exact ⟨fun _ => begun_of_started g, fun _ => rfl⟩
  · show p.taken < p.left
    rcases hrem : g.feed.remaining with _ | ⟨s, rest⟩
    · have hphase : g.started.phase = .spent := by
        show g.pulled = .spent
        rw [pulled, hrem]
      rw [hphase] at hready
      cases hready
    · have hpos := Feed.left_advanced hrem
      omega

theorem paced_fill (h : Paced counter p g) : Paced counter p.ask (after fill g) := by
  obtain ⟨⟨values, hvalues⟩, hpace⟩ := id h
  rcases hasked : p.asked with _ | _
  -- nothing is held yet, and the first sample is read now
  · have hphase : g.phase = .unread := by
      by_contra hbegun
      have htrue := hpace.begun.mpr hbegun
      rw [hasked] at htrue
      exact Bool.false_ne_true htrue
    have hreads := hpace.reads
    have hleft := hpace.left
    rw [Pace.due_of_not_asked hasked] at hreads hleft
    rw [after, fill_of_reliable hvalues.sourced.1 hphase]
    refine keeps_openBucket_paced g.started (paced_started hvalues ?_ ?_)
    · rw [hpace.fresh hasked]
      exact hreads
    · rw [hpace.fresh hasked]
      exact hleft
  · rw [after_of_ok (fill_of_begun (hpace.begun.mp hasked)), Pace.ask_of_asked hasked]
    exact h

theorem paced_hasValue (h : Paced counter p g) : Paced counter p.ask (after hasValue g) :=
  after_bind (P := Paced counter p.ask) (paced_fill h) fun _ =>
    Keeps.get_bind fun _ _ => Keeps.pure _

/-- A value that is taken is one that was held, whether it can be counted or not. -/
theorem paced_nextValue_of_held (h : Paced counter p g) (hasked : p.asked = true)
    (hmore : hasValue g = .ok true g) :
    ((∃ v, nextValue g = .ok v g.started) ∨ nextValue g = .error .overflow g.started) ∧
      Paced counter p.take g.started := by
  obtain ⟨⟨values, hvalues⟩, hpace⟩ := h
  have hbegun := hpace.begun.mp hasked
  obtain ⟨s, hphase, -⟩ := held_of_hasValue hbegun hmore
  have hheld := hpace.held (by rw [hphase]; rfl)
  have hreads := hpace.reads
  have hleft := hpace.left
  rw [Pace.due_of_asked hasked, Nat.min_eq_right hheld] at hreads hleft
  refine ⟨?_, paced_started (p := p.take) hvalues hreads hleft⟩
  rcases nextValue_of_stocked hvalues hbegun hmore with ⟨v, rest, -, hnext, -⟩ | ⟨hnext, -⟩
  · exact Or.inl ⟨v, hnext⟩
  · exact Or.inr hnext

theorem hasValue_ne_overflow : FaultsIn (· ≠ .overflow) hasValue :=
  faultsIn_hasValue (fun _ => nofun) fun _ => nofun

theorem treads_nextValue : Treads (Paced counter) nextValue := by
  intro p g h
  have hasked := paced_hasValue h
  rcases hhas : hasValue g with ⟨more, g'⟩ | ⟨fault, g'⟩
  · rw [after_of_ok hhas] at hasked
    have hmore := hasValue_again hhas (hasked.2.begun.mp rfl)
    have hsame : nextValue g = nextValue g' := bind_congr_state (hhas.trans hmore.symm)
    rw [hsame]
    cases more with
    | true =>
      obtain ⟨⟨v, hnext⟩ | hnext, htaken⟩ := paced_nextValue_of_held hasked rfl hmore
      · rwa [hnext]
      · rwa [hnext]
    | false => rwa [nextValue_of_none hmore]
  · rw [after_of_error hhas] at hasked
    rw [nextValue_of_failed hhas]
    show Paced counter (p.fail fault) g'
    rwa [Pace.fail_of_ne (hasValue_ne_overflow g fault g' hhas)]

/-- At the start, and after a jump, nothing is due. -/
theorem paced_of_unread (hs : Sourced counter g) (hphase : g.phase = .unread) :
    Paced counter (.start g.feed) g := by
  refine ⟨⟨_, stocked_of_unread hs hphase⟩, rfl, rfl, ?_, fun _ => rfl, fun hready => ?_⟩
  · rw [hphase]
    exact ⟨nofun, fun hbegun => absurd rfl hbegun⟩
  · rw [hphase] at hready
    cases hready

theorem restarts_reposition (time : Word) : Restarts (Paced counter) (reposition time) := by
  intro p g h
  obtain ⟨⟨values, hvalues⟩, -⟩ := id h
  rcases hseek : Feed.seek time g.feed with ⟨_, feed⟩ | ⟨fault, feed⟩
  · obtain ⟨-, rfl⟩ := Feed.seek_ok hseek
    rw [reposition_of_ok hseek]
    exact ⟨paced_of_unread hvalues.sourced rfl, rfl⟩
  · rwa [reposition_of_error hseek]

theorem paces (counter : Option Counter) : Paces (Paced counter) where
  reads h := h.2.reads
  hasValue := paced_hasValue
  nextValue := treads_nextValue
  openNext h := after_bind (P := Paced counter _) (paced_fill h) fun _ => keeps_openBucket_paced
  reposition := restarts_reposition
  seek time := by
    intro p g h
    obtain ⟨target, hrun⟩ := exists_reposition g time
    rw [show BucketCursor.seek time g = reposition target g from hrun]
    exact restarts_reposition target p g h
  setEnd last h := ⟨h.1.imp fun _ hvalues => hvalues.setEnd last, h.2.reads, h.2.left, h.2.begun,
    h.2.fresh, h.2.held⟩
  hasValue_fault := hasValue_ne_overflow
  openNext_fault := faultsIn_openNext (fun _ => nofun) fun _ => nofun
  setWidth {p g} width h := by
    refine ⟨h.1.imp fun _ hvalues => hvalues.setWidth width, ?_⟩
    show (g.setWidth width).OnPace p
    rw [Grid.setWidth]
    split
    · exact ⟨h.2.reads, h.2.left, h.2.begun, h.2.fresh, h.2.held⟩
    · exact h.2

end Grid

/-! ### Calendars -/

namespace CalendarCursor

variable {σ : Type} {Paced : Pace → σ → Prop} {p : Pace} {c : CalendarCursor σ}

/-- A calendar is at the pace of the cursor below, which it has asked if it has opened a unit. -/
def PacedBelow (Paced : Pace → σ → Prop) (p : Pace) (c : CalendarCursor σ) : Prop :=
  Paced p c.inner ∧ (c.phase ≠ .unread → p.asked = true)

variable [BucketCursor σ]

theorem paced_openUnit (h : Paces Paced) (hc : Paced p c.inner) :
    Over c.unit c.zone (Paced p.ask) (after openUnit c) := by
  refine over_openUnit (fun _ => h.hasValue) (fun w _ _ => h.setWidth w)
    (fun last _ => h.setEnd last) ?_
  rw [after_below]
  exact ⟨rfl, rfl, h.openNext hc⟩

theorem paced_fill (h : Paces Paced) (hc : PacedBelow Paced p c) :
    Over c.unit c.zone (Paced p.ask) (after fill c) := by
  rw [fill, after_get_bind]
  rcases hphase : c.phase with _ | last | _
  · exact paced_openUnit h hc.1
  · rw [Pace.ask_of_asked (hc.2 (hphase ▸ Phase.ready_ne_unread last))]
    exact ⟨rfl, rfl, hc.1⟩
  · rw [Pace.ask_of_asked (hc.2 (hphase ▸ Phase.spent_ne_unread))]
    exact ⟨rfl, rfl, hc.1⟩

theorem paced_hasValue (h : Paces Paced) (hc : PacedBelow Paced p c) :
    PacedBelow Paced p.ask (after hasValue c) :=
  ⟨(over_hasValue (fun _ => h.hasValue) (paced_fill h hc)).inner, fun _ => rfl⟩

theorem paced_openNext (h : Paces Paced) (hc : PacedBelow Paced p c) :
    PacedBelow Paced p.ask (after openNext c) := by
  refine ⟨?_, fun _ => rfl⟩
  rw [openNext, after_get_bind]
  rcases hphase : c.phase with _ | last | _
  · exact (paced_openUnit h hc.1).inner
  · exact (paced_openUnit h hc.1).inner
  · rw [Pace.ask_of_asked (hc.2 (hphase ▸ Phase.spent_ne_unread))]
    exact hc.1

theorem hasValue_ne_overflow (h : Paces Paced) :
    FaultsIn (· ≠ .overflow) (hasValue (σ := σ)) :=
  faultsIn_hasValue (fun _ => nofun) h.hasValue_fault h.openNext_fault

theorem treads_nextValue (h : Paces Paced) : Treads (PacedBelow Paced) nextValue := by
  intro p c hc
  have hasked := paced_hasValue h hc
  rcases hhas : hasValue c with ⟨more, c'⟩ | ⟨fault, c'⟩
  · rw [after_of_ok hhas] at hasked
    rcases more with _ | _
    · rwa [nextValue_of_none hhas]
    · have hnext := h.nextValue p.ask c'.inner hasked.1
      rw [nextValue_of_more hhas]
      rcases hvalue : ValueStream.nextValue c'.inner with ⟨v, inner⟩ | ⟨fault, inner⟩
      · rw [hvalue] at hnext
        rw [below_of_ok hvalue]
        exact ⟨hnext, fun _ => rfl⟩
      · rw [hvalue] at hnext
        rw [below_of_error hvalue]
        exact ⟨Pace.fail_ask fault ▸ hnext, fun _ => Pace.asked_fail fault⟩
  · rw [after_of_error hhas] at hasked
    rw [nextValue_of_failed hhas]
    show PacedBelow Paced (p.fail fault) c'
    rwa [Pace.fail_of_ne (hasValue_ne_overflow h c fault c' hhas)]

theorem restarts_reposition (h : Paces Paced) (time : Word) :
    Restarts (PacedBelow Paced) (reposition time) := by
  intro p c hc
  have hjump := h.reposition time p c.inner hc.1
  rcases hrun : BucketCursor.reposition time c.inner with ⟨_, inner⟩ | ⟨fault, inner⟩
  · rw [hrun] at hjump
    rw [reposition_of_ok hrun]
    exact ⟨⟨hjump.1, fun hphase => absurd rfl hphase⟩, hjump.2⟩
  · rw [hrun] at hjump
    rw [reposition_of_error hrun]
    exact ⟨hjump, hc.2⟩

/-- A calendar reads what the cursor below reads. -/
theorem paces (h : Paces Paced) : Paces (PacedBelow Paced) where
  reads hc := h.reads hc.1
  hasValue := paced_hasValue h
  nextValue := treads_nextValue h
  openNext := paced_openNext h
  reposition := restarts_reposition h
  setWidth _ hc := hc
  setEnd _ hc := hc
  hasValue_fault := hasValue_ne_overflow h
  openNext_fault := faultsIn_openNext (fun _ => nofun) h.hasValue_fault h.openNext_fault
  seek time := by
    intro p c hc
    rcases htarget : c.unitFrom time with fault | target
    · rwa [show BucketCursor.seek time c = .error fault c from seek_of_outOfRange htarget]
    · rw [show BucketCursor.seek time c = reposition target c from seek_of_unitFrom htarget]
      exact restarts_reposition h target p c hc

end CalendarCursor

/-! ### Cursors above grids -/

namespace Shape

/-- Whether a cursor is a grid, or calendars above one. -/
def overGrid : Shape → Bool
  | grid => true
  | runs => false
  | calendar inner => inner.overGrid

/-- The cursor is above a grid and at the pace. -/
def Paced (counter : Option Counter) : (shape : Shape) → Pace → shape.State → Prop
  | grid => Grid.Paced counter
  | runs => fun _ _ => False
  | calendar inner => CalendarCursor.PacedBelow (inner.Paced counter)

theorem paces (counter : Option Counter) {shape : Shape} (hgrid : shape.overGrid = true) :
    Paces (shape.Paced counter) := by
  induction shape with
  | grid => exact Grid.paces counter
  | runs => exact absurd hgrid Bool.false_ne_true
  | calendar inner ih => exact CalendarCursor.paces (ih hgrid)

end Shape

namespace Stack

variable {feed : Feed} {counter : Option Counter} {c : AnyCursor}

theorem paced (hc : Stack feed counter c) (hgrid : c.shape.overGrid = true)
    (hinc : Increasing feed.samples.toList) (hreads : feed.readFaults = []) :
    c.shape.Paced counter (.start feed) c.cursor := by
  induction hc with
  | @grid width offset g h =>
    rw [Grid.make] at h
    split at h
    · cases h
      exact Grid.paced_of_unread ⟨hreads, rfl, hinc⟩ rfl
    · cases h
  | runs => exact absurd hgrid Bool.false_ne_true
  | calendar unit zone h ih => exact ⟨ih hgrid, fun hphase => absurd rfl hphase⟩

/-- A fresh grid over a feed, or calendars above one, has read nothing.  After any calls, whatever
their results, the reads since the last jump that succeeded are none before the first call for
values, and then one more than the values that were taken, as long as samples are left.  A value that
a counter could not count is taken as well.  Jumps, widths and ends read nothing. -/
theorem lazily_callAll (hc : Stack feed counter c) (hgrid : c.shape.overGrid = true)
    (hinc : Increasing feed.samples.toList) (hreads : feed.readFaults = []) (calls : List Call) :
    (BucketCursor.feed c.cursor).reads = feed.reads ∧
      Lazily ((Meter.start c.cursor).callAll calls) := by
  have hpaces := Shape.paces counter hgrid
  have hstart : c.shape.Paced counter (Meter.start c.cursor).pace c.cursor := by
    rw [Meter.start, hc.feed_eq]
    exact hc.paced hgrid hinc hreads
  exact ⟨congrArg Feed.reads hc.feed_eq, hpaces.lazily (hpaces.paced_callAll calls hstart)⟩

/-- Years above months above a counter, from the second sample on, with a jump back and an end and
a width that are set from outside. -/
theorem lazily_callAll_of_three :
    (BucketCursor.feed (AnyCursor.calendar .year Zone.utc (.calendar .month Zone.utc
      (.grid ⟨⟨#[⟨0, .whole 2⟩, ⟨10, .whole 3⟩, ⟨2678400000, .whole 5⟩], 1, 4, [], none⟩, 7, 3,
        some ⟨.monotonic, 100, 0⟩, 7, .unread, by decide⟩))).cursor).reads = 4 ∧
    Lazily ((Meter.start (AnyCursor.calendar .year Zone.utc (.calendar .month Zone.utc
      (.grid ⟨⟨#[⟨0, .whole 2⟩, ⟨10, .whole 3⟩, ⟨2678400000, .whole 5⟩], 1, 4, [], none⟩, 7, 3,
        some ⟨.monotonic, 100, 0⟩, 7, .unread, by decide⟩))).cursor).callAll
      [.bucketTime, .nextValue, .setEnd 5, .openNext, .reposition 0, .setWidth 9, .nextValue,
        .hasValue, .seek 20]) := by
  have hstack : Stack ⟨#[⟨0, .whole 2⟩, ⟨10, .whole 3⟩, ⟨2678400000, .whole 5⟩], 1, 4, [], none⟩
      (some ⟨.monotonic, 100, 0⟩) (.calendar .year Zone.utc (.calendar .month Zone.utc
        (.grid ⟨⟨#[⟨0, .whole 2⟩, ⟨10, .whole 3⟩, ⟨2678400000, .whole 5⟩], 1, 4, [], none⟩, 7, 3,
          some ⟨.monotonic, 100, 0⟩, 7, .unread, by decide⟩))) :=
    .calendar .year Zone.utc (.calendar .month Zone.utc (@Stack.grid _ _ 7 3 _ rfl))
  exact lazily_callAll hstack rfl (by decide) rfl
    [.bucketTime, .nextValue, .setEnd 5, .openNext, .reposition 0, .setWidth 9, .nextValue,
      .hasValue, .seek 20]

end Stack

end TimeBuckets
