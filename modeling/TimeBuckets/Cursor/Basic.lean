/-
Cursors over buckets.

* `Phase` — whether a cursor has read nothing yet, holds something, or is spent;
* `ValueStream` — the values of the open bucket, one after the other;
* `BucketCursor` — a stream that walks from bucket to bucket;
* `bucketValues`, `summarize`, `nextBucket` — all values of a bucket, their statistic, and the
  statistic together with the step to the following bucket;
* `drain` — bucket after bucket until the end or a fault.

An operation either gives a result or a fault, and leaves a state in both cases: a failed
operation may have changed the cursor, and later operations go on from there.
-/
import TimeBuckets.Feed
import TimeBuckets.Statistic

namespace TimeBuckets

/-- The life of a cursor: it reads nothing before it is asked for a value, then holds what it
has read ahead, and ends when nothing is left. -/
inductive Phase (α : Type)
  | unread
  | ready (held : α)
  | spent

namespace Phase

variable {α : Type}

/-- The name of a phase. -/
def label : Phase α → String
  | unread => "uninitialized"
  | ready _ => "ready"
  | spent => "exhausted"

/-- What is held. -/
def held? : Phase α → Option α
  | ready a => some a
  | _ => none

/-- Whether something is held. -/
def isReady : Phase α → Bool
  | ready _ => true
  | _ => false

end Phase

/-- A stream of the values of a bucket. -/
class ValueStream (σ : Type) where
  /-- Whether the bucket has a further value. -/
  hasValue : EStateM Fault σ Bool
  /-- The next value of the bucket. -/
  nextValue : EStateM Fault σ Float
  /-- A bound on the number of values that can still come, in this bucket and all others. -/
  pending : σ → Nat

/-- A stream that walks from bucket to bucket. -/
class BucketCursor (σ : Type) extends ValueStream σ where
  /-- The time that stands for the open bucket. -/
  bucketTime : σ → Except Fault Word
  /-- Opens the bucket of the next value. -/
  openNext : EStateM Fault σ Unit
  /-- Goes to the first complete bucket at a time or later. -/
  seek : Word → EStateM Fault σ Unit
  /-- Goes to the first sample at a time or later. -/
  reposition : Word → EStateM Fault σ Unit
  /-- The time of the next value, if one is held. -/
  pendingTime : σ → Option Word
  /-- Gives buckets another width, where that means something. -/
  setWidth : Word → σ → σ
  /-- Gives the open bucket another end, where that means something. -/
  setEnd : Word → σ → σ
  /-- The text of the cursor in messages and states. -/
  text : σ → String
  /-- The feed below the cursor. -/
  feed : σ → Feed

section Stream

variable {σ : Type} [ValueStream σ]

/-- The values that are left in the bucket, `n` at most. -/
def takeValues : Nat → EStateM Fault σ (List Float)
  | 0 => pure []
  | n + 1 => do
    if ← ValueStream.hasValue then
      let value ← ValueStream.nextValue
      let rest ← takeValues n
      return value :: rest
    else
      return []

/-- All values that are left in the bucket. -/
def bucketValues : EStateM Fault σ (List Float) := do
  takeValues (ValueStream.pending (← get) + 1)

/-- A statistic of all values that are left in the bucket. -/
def summarize (s : Statistic) : EStateM Fault σ Float := do
  match s.ofValues? (← bucketValues) with
  | some value => return value
  | none => throw (.emptyBucket s.name)

end Stream

section Buckets

variable {σ : Type} [BucketCursor σ]

/-- The time that stands for the open bucket, as an operation that changes nothing. -/
def readBucketTime : EStateM Fault σ Word := fun c =>
  match BucketCursor.bucketTime c with
  | .ok time => .ok time c
  | .error fault => .error fault c

/-- The statistic of the open bucket, after which the next bucket is opened. -/
def takeBucket (s : Statistic) : EStateM Fault σ Point := do
  let value ← summarize s
  let time ← readBucketTime
  BucketCursor.openNext
  return ⟨time, value⟩

/-- The statistic of the open bucket, or `none` if no bucket is left. -/
def nextBucket (s : Statistic) : EStateM Fault σ (Option Point) := do
  if ← ValueStream.hasValue then
    return some (← takeBucket s)
  else
    return none

end Buckets

/-- What a walk over all buckets gives: the points in order, and the fault that stopped it. -/
structure Drained where
  points : List Point
  fault : Option Fault

/-- Repeats a step until it gives nothing or fails, `n` times at most. -/
def drain {σ : Type} (step : EStateM Fault σ (Option Point)) : Nat → σ → Drained × σ
  | 0, c => (⟨[], none⟩, c)
  | n + 1, c =>
    match step c with
    | .ok (some point) c =>
      let (rest, c) := drain step n c
      (⟨point :: rest.points, rest.fault⟩, c)
    | .ok none c => (⟨[], none⟩, c)
    | .error fault c => (⟨[], some fault⟩, c)

/-- All buckets of a cursor from the open one on. -/
def drainBuckets {σ : Type} [BucketCursor σ] (s : Statistic) (c : σ) : Drained × σ :=
  drain (nextBucket s) (ValueStream.pending c + 1) c

end TimeBuckets
