/-
Buckets of one width.

* `Grid` — a cursor over buckets of `width` milliseconds that start where the time plus
  `offset` is a multiple of the width;
* `Grid.align`, `Grid.bucketEnd` — the start and the end of the bucket of a time;
* `Grid.make` — a grid at the start of a feed, its width being positive.

With a counter the values are the amounts counted from each sample to the next.  Such an
amount belongs to the bucket of the earlier sample, and the last sample alone gives none.
The cursor holds one sample that it has read ahead.
-/
import TimeBuckets.Cursor.Basic
import TimeBuckets.Rate

namespace TimeBuckets

/-- A cursor over buckets of one width. -/
structure Grid where
  feed : Feed
  width : Word
  offset : Word
  counter : Option Counter
  /-- The end of the open bucket, which no longer belongs to it. -/
  boundary : Word
  /-- The sample that was read ahead. -/
  phase : Phase Sample
  width_pos : 0 < width

namespace Grid

/-- A grid that has read nothing yet. -/
def make (feed : Feed) (width offset : Word) (counter : Option Counter) : Except Fault Grid :=
  if h : 0 < width then .ok ⟨feed, width, offset, counter, width, .unread, h⟩
  else .error (.setting (.widthNotPositive width))

/-- The time since the start of its bucket. -/
def elapsed (g : Grid) (time : Word) : Int :=
  (time.toInt + g.offset.toInt) % g.width.toInt

/-- The start of the bucket of a time, if a word can hold it. -/
def align (g : Grid) (time : Word) : Except Fault Word :=
  match Word.ofInt? (time.toInt - g.elapsed time) with
  | some start => .ok start
  | none => .error (.outOfRange time)

/-- The end of the bucket of a time, if words can hold both its ends. -/
def bucketEnd (g : Grid) (time : Word) : Except Fault Word := do
  let start ← g.align time
  match Word.ofInt? (start.toInt + g.width.toInt) with
  | some last => .ok last
  | none => .error (.outOfRange time)

/-- The time that stands for the open bucket: the start of the bucket that is one width before
the boundary. -/
def bucketTime (g : Grid) : Except Fault Word :=
  match Word.ofInt? (g.boundary.toInt - g.width.toInt) with
  | some start => g.align start
  | none => .error (.outOfRange g.boundary)

/-- The text of the values of a grid: samples as they are, or a counter. -/
def valueText (g : Grid) : String :=
  match g.counter with
  | none => "passthrough"
  | some c => c.text

/-- The text of a grid in messages and states. -/
def text (g : Grid) : String :=
  let ahead :=
    match g.phase.held? with
    | some s => ", lookahead=" ++ s.text
    | none => ""
  "FixedIntervalCursor(width=" ++ g.width.text ++ ", offset=" ++ g.offset.text ++
    ", boundary=" ++ g.boundary.text ++ ", transform=" ++ g.valueText ++
    ", state=" ++ g.phase.label ++ ahead ++ ", source=" ++ g.feed.text ++ ")"

/-- Reads a sample from the feed. -/
def read : EStateM Fault Grid Sample := fun g =>
  match g.feed.next with
  | .ok s feed => .ok s { g with feed := feed }
  | .error fault feed => .error (.source fault) { g with feed := feed }

/-- Reads ahead.  A counter holds a sample only if another one follows. -/
def pull : EStateM Fault Grid Unit := do
  if (← get).feed.hasNext then
    let s ← read
    modify fun g =>
      { g with phase := if g.counter.isSome && !g.feed.hasNext then .spent else .ready s }
  else
    modify fun g => { g with phase := .spent }

/-- Moves the boundary to the end of the bucket of the sample that was read ahead. -/
def openBucket : EStateM Fault Grid Unit := fun g =>
  match g.phase with
  | .ready s =>
    match g.bucketEnd s.time with
    | .ok last => .ok () { g with boundary := last }
    | .error fault => .error fault g
  | _ => .ok () g

/-- Reads ahead for the first time. -/
def fill : EStateM Fault Grid Unit := do
  match (← get).phase with
  | .unread =>
    pull
    openBucket
  | _ => pure ()

/-- Whether the sample that was read ahead lies before the boundary. -/
def hasValue : EStateM Fault Grid Bool := do
  fill
  let g ← get
  return match g.phase with
    | .ready s => s.time < g.boundary
    | _ => false

/-- The amount counted from the held sample to the next one, which is held from now on unless
it is the last.  So it is held also if the time between the two cannot be told. -/
def count (c : Counter) (current : Sample) : EStateM Fault Grid Float := do
  let next ← read
  let g ← get
  match checkOrder current next g.text with
  | .error fault => throw fault
  | .ok () =>
    set { g with phase := if g.feed.hasNext then .ready next else .spent }
    match c.delta current next with
    | .error fault => throw fault
    | .ok amount => return amount

/-- The next value of the open bucket. -/
def nextValue : EStateM Fault Grid Float := do
  let more ← hasValue
  let g ← get
  if more then
    match g.phase, g.counter with
    | .ready current, none =>
      pull
      return current.toReal
    | .ready current, some c => count c current
    | _, _ => throw (.noValue g.text)
  else
    throw (.noValue g.text)

/-- Opens the bucket of the next value. -/
def openNext : EStateM Fault Grid Unit := do
  fill
  openBucket

/-- Goes to the first sample at a time or later. -/
def reposition (time : Word) : EStateM Fault Grid Unit := fun g =>
  match g.feed.seek time with
  | .ok () feed => .ok () { g with feed := feed, phase := .unread }
  | .error fault feed => .error (.source fault) { g with feed := feed }

/-- Goes to the first bucket that starts at a time or later. -/
def seek (time : Word) : EStateM Fault Grid Unit := fun g =>
  match g.align (Word.clamp (time.toInt + (g.width.toInt - 1))) with
  | .ok start => reposition start g
  | .error fault => .error fault g

/-- Gives buckets another width, if it is positive. -/
def setWidth (width : Word) (g : Grid) : Grid :=
  if h : 0 < width then { g with width := width, width_pos := h } else g

/-- A bound on the values that can still come. -/
def pending (g : Grid) : Nat :=
  match g.phase with
  | .unread => g.feed.left
  | .ready _ => g.feed.left + 1
  | .spent => 0

instance : BucketCursor Grid where
  hasValue := hasValue
  nextValue := nextValue
  pending := pending
  bucketTime := bucketTime
  openNext := openNext
  seek := seek
  reposition := reposition
  pendingTime g := g.phase.held?.map Sample.time
  setWidth := setWidth
  setEnd last g := { g with boundary := last }
  text := text
  feed := feed

end Grid

end TimeBuckets
