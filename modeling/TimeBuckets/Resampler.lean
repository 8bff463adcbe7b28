/-
Resamplers: one statistic for each bucket of a feed.

* `Resampler` — a cursor with the statistic of its buckets and the last point given out;
* `Resampler.hasNext`, `Resampler.nextPoint`, `Resampler.next?`, `Resampler.seek` — the walk
  over the buckets;
* `Resampler.build` — the resampler for an interval, a time zone and rate options.

Months and years lie above a grid whose offset is the standard offset of the zone, and a grid
counts if the rate options say so.
-/
import TimeBuckets.Cursor.Shape
import TimeBuckets.Interval

namespace TimeBuckets

/-- A cursor with a statistic for its buckets. -/
structure Resampler (σ : Type) where
  cursor : σ
  statistic : Statistic
  interval : Interval
  /-- The last point that was given out. -/
  latest : Option Point

namespace Resampler

variable {σ : Type}

/-- An operation of the cursor. -/
def onCursor {α : Type} (run : EStateM Fault σ α) : EStateM Fault (Resampler σ) α := fun r =>
  match run r.cursor with
  | .ok a cursor => .ok a { r with cursor := cursor }
  | .error fault cursor => .error fault { r with cursor := cursor }

variable [BucketCursor σ]

/-- The text of a resampler in messages and states. -/
def text (r : Resampler σ) : String :=
  let latest :=
    match r.latest with
    | some point => point.text
    | none => "none"
  "Downsampler(interval=" ++ r.interval.text ++ ", reducer=" ++ r.statistic.name ++
    ", current=" ++ latest ++ ", cursor=" ++ BucketCursor.text r.cursor ++ ")"

/-- Whether another bucket is left. -/
def hasNext : EStateM Fault (Resampler σ) Bool := onCursor ValueStream.hasValue

/-- The point of the open bucket, after which the next bucket is opened. -/
def nextPoint : EStateM Fault (Resampler σ) Point := do
  if ← hasNext then
    let point ← onCursor (takeBucket (← get).statistic)
    modify fun r => { r with latest := some point }
    return point
  else
    throw (.noBucket (← get).text)

/-- The point of the open bucket, or `none` if no bucket is left. -/
def next? : EStateM Fault (Resampler σ) (Option Point) := do
  if ← hasNext then
    return some (← nextPoint)
  else
    return none

/-- Goes to the first complete bucket at a time or later. -/
def seek (time : Word) : EStateM Fault (Resampler σ) Unit := onCursor (BucketCursor.seek time)

/-- Buckets cannot be taken away. -/
def remove : EStateM Fault (Resampler σ) Unit := throw (.unsupported "remove")

/-- All points from the open bucket on. -/
def drainAll (r : Resampler σ) : Drained × Resampler σ :=
  drain next? (ValueStream.pending r.cursor + 1) r

end Resampler

/-- The cursor for an interval, a time zone and rate options.  Runs always count as a counter
that only goes up. -/
def cursorFor (feed : Feed) (interval : Interval) (zone : Zone) (options : RateOptions) :
    Except Fault AnyCursor :=
  match interval.unit with
  | .run =>
    let counter := if options.counted then some ⟨.monotonic, options.max, options.reset⟩ else none
    .ok (.runs (Runs.make feed counter))
  | unit => do
    let grid ← Grid.make feed interval.width zone.standardMillis options.counter?
    return match unit with
      | .month => .calendar .month zone (.grid grid)
      | .year => .calendar .year zone (.grid grid)
      | _ => .grid grid

/-- A resampler over a cursor of any shape. -/
structure AnyResampler where
  shape : Shape
  resampler : Resampler shape.State

namespace AnyResampler

/-- The resampler for an interval, a statistic, a time zone and rate options. -/
def build (feed : Feed) (interval : Interval) (statistic : Statistic) (zone : Zone)
    (options : RateOptions) : Except Fault AnyResampler := do
  let c ← cursorFor feed interval zone options
  return ⟨c.shape, c.cursor, statistic, interval, none⟩

end AnyResampler

end TimeBuckets
