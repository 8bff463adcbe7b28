/-
Buckets that follow activity in the data.

* `Runs` — a cursor whose buckets are runs: stretches of neighbouring samples each of which
  contributes something other than zero;
* `Runs.contribution` — what a pair of neighbours contributes: the later reading, or the
  amount counted between the two, if it can be told.

Pairs that contribute zero, negative or not, lie between runs and belong to no bucket, and a pair
that contributes no number belongs to one.  A run stands under the time of the first sample of
its first pair.  Where it cannot be told what a pair contributes, the cursor goes no further.
-/
import TimeBuckets.Cursor.Basic
import TimeBuckets.Rate

namespace TimeBuckets

/-- Two neighbouring samples. -/
structure Pair where
  previous : Sample
  current : Sample

/-- A cursor over runs of activity. -/
structure Runs where
  feed : Feed
  counter : Option Counter
  /-- The time of the first sample of the run. -/
  start : Word
  /-- The pair that was read ahead. -/
  phase : Phase Pair

namespace Runs

/-- A cursor that has read nothing yet. -/
def make (feed : Feed) (counter : Option Counter) : Runs := ⟨feed, counter, 0, .unread⟩

/-- What a pair contributes to a run. -/
def contribution (counter : Option Counter) (pair : Pair) : Except Fault Float :=
  match counter with
  | none => .ok pair.current.toReal
  | some c => c.delta pair.previous pair.current

/-- The text of what is measured: the readings, or a counter. -/
def signalText (r : Runs) : String :=
  match r.counter with
  | none => "level"
  | some c => c.text

/-- The text of a cursor in messages and states. -/
def text (r : Runs) : String :=
  let ahead :=
    match r.phase.held? with
    | some pair => ", previous=" ++ pair.previous.text ++ ", current=" ++ pair.current.text
    | none => ""
  "RunBoundaryCursor(signal=" ++ r.signalText ++ ", run_start=" ++ r.start.text ++
    ", state=" ++ r.phase.label ++ ahead ++ ", source=" ++ r.feed.text ++ ")"

/-- What a pair contributes, the cursor staying as it is. -/
def contributed (pair : Pair) : EStateM Fault Runs Float := fun r =>
  match contribution r.counter pair with
  | .ok amount => .ok amount r
  | .error fault => .error fault r

/-- Reads a sample from the feed. -/
def read : EStateM Fault Runs Sample := fun r =>
  match r.feed.next with
  | .ok s feed => .ok s { r with feed := feed }
  | .error fault feed => .error (.source fault) { r with feed := feed }

/-- Reads the sample that follows another one, and then holds the two. -/
def pairWith (previous : Sample) : EStateM Fault Runs Unit := do
  let current ← read
  let r ← get
  match checkOrder previous current r.text with
  | .error fault => throw fault
  | .ok () => set { r with phase := .ready ⟨previous, current⟩ }

/-- Moves on by one sample. -/
def advance : EStateM Fault Runs Unit := do
  let r ← get
  match r.phase with
  | .ready pair =>
    if r.feed.hasNext then pairWith pair.current else set { r with phase := .spent }
  | _ => pure ()

/-- Moves on to a pair that belongs to a run, over `n` pairs at most, and notes the start of
that run. -/
def skip : Nat → EStateM Fault Runs Unit
  | 0 => pure ()
  | n + 1 => do
    let r ← get
    match r.phase with
    | .ready pair =>
      if (← contributed pair) != 0 then
        set { r with start := pair.previous.time }
      else
        advance
        skip n
    | _ => pure ()

/-- Moves on to a pair that belongs to a run. -/
def skipIdle : EStateM Fault Runs Unit := do
  skip ((← get).feed.left + 1)

/-- Reads the first pair. -/
def readFirst : EStateM Fault Runs Unit := do
  modify fun r => { r with phase := .spent }
  if (← get).feed.hasNext then
    let first ← read
    if (← get).feed.hasNext then
      pairWith first

/-- Reads ahead for the first time. -/
def fill : EStateM Fault Runs Unit := do
  match (← get).phase with
  | .unread =>
    readFirst
    skipIdle
  | _ => pure ()

/-- Whether the pair that is held belongs to the run. -/
def holdsLive : EStateM Fault Runs Bool := do
  match (← get).phase with
  | .ready pair => return (← contributed pair) != 0
  | _ => return false

/-- Whether the pair that was read ahead belongs to the run. -/
def hasValue : EStateM Fault Runs Bool := do
  fill
  holdsLive

/-- The next value of the run. -/
def nextValue : EStateM Fault Runs Float := do
  let more ← hasValue
  let r ← get
  if more then
    match r.phase with
    | .ready pair =>
      let amount ← contributed pair
      advance
      return amount
    | _ => throw (.noValue r.text)
  else
    throw (.noValue r.text)

/-- Opens the next run. -/
def openNext : EStateM Fault Runs Unit := do
  fill
  skipIdle

/-- Goes to the first sample at a time or later. -/
def reposition (time : Word) : EStateM Fault Runs Unit := fun r =>
  match r.feed.seek time with
  | .ok () feed => .ok () { r with feed := feed, phase := .unread }
  | .error fault feed => .error (.source fault) { r with feed := feed }

/-- A bound on the values that can still come. -/
def pending (r : Runs) : Nat :=
  match r.phase with
  | .unread => r.feed.left
  | .ready _ => r.feed.left + 1
  | .spent => 0

instance : BucketCursor Runs where
  hasValue := hasValue
  nextValue := nextValue
  pending := pending
  bucketTime r := .ok r.start
  openNext := openNext
  seek := reposition
  reposition := reposition
  pendingTime r := r.phase.held?.map fun pair => pair.previous.time
  setWidth _ r := r
  setEnd _ r := r
  text := text
  feed := feed

end Runs

end TimeBuckets
