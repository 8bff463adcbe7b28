/-
Buckets that follow the calendar.

* `CalendarCursor` — a cursor over the months or years of a time zone, which takes its values
  from another cursor;
* `CalendarCursor.openUnit` — opens the unit of the next value of the cursor below.

A unit starts with the first instant of its first day.  The bucket of the cursor below is made
to end with the unit, so that its values come through without a break.
-/
import TimeBuckets.Calendar.Unit
import TimeBuckets.Cursor.Basic
import TimeBuckets.Zone.Basic

namespace TimeBuckets

/-- A cursor over calendar units, above another cursor. -/
structure CalendarCursor (σ : Type) where
  unit : CalendarUnit
  zone : Zone
  inner : σ
  /-- The end of the open unit, which no longer belongs to it. -/
  phase : Phase Word

namespace CalendarCursor

variable {σ : Type}

/-- A cursor that has read nothing yet. -/
def make (unit : CalendarUnit) (zone : Zone) (inner : σ) : CalendarCursor σ :=
  ⟨unit, zone, inner, .unread⟩

/-- What is there, or else the fault of a time that is out of range. -/
def orOutOfRange {α : Type} (time : Word) : Option α → Except Fault α
  | some a => .ok a
  | none => .error (.outOfRange time)

/-- The first day of the unit of a time. -/
def unitStart (c : CalendarCursor σ) (time : Word) : Except Fault Date := do
  let date ← orOutOfRange time (c.zone.localDate? time)
  return c.unit.start date

/-- An operation of the cursor below. -/
def below {α : Type} (run : EStateM Fault σ α) : EStateM Fault (CalendarCursor σ) α := fun c =>
  match run c.inner with
  | .ok a inner => .ok a { c with inner := inner }
  | .error fault inner => .error fault { c with inner := inner }

variable [BucketCursor σ]

/-- The text of a cursor in messages and states. -/
def text (c : CalendarCursor σ) : String :=
  let boundary :=
    match c.phase.held? with
    | some last => ", boundary=" ++ last.text
    | none => ""
  "CalendarUnitCursor<" ++ c.unit.name ++ ">(tz=" ++ c.zone.name ++
    ", state=" ++ c.phase.label ++ boundary ++ ", inner=" ++ BucketCursor.text c.inner ++ ")"

/-- The first day of the unit of a time and the end of that unit. -/
def unitAround (c : CalendarCursor σ) (time : Word) : Except Fault (Date × Word) := do
  let start ← c.unitStart time
  let next ← orOutOfRange time (c.unit.next? start)
  let last ← orOutOfRange time (c.zone.localMidnight? next)
  return (start, last)

/-- Makes the bucket of the cursor below end with the unit, and gives it the width of the
unit. -/
def pin (c : CalendarCursor σ) (start : Date) (last : Word) : CalendarCursor σ :=
  let wide :=
    match c.unit.width? start with
    | some width => BucketCursor.setWidth width c.inner
    | none => c.inner
  { c with inner := BucketCursor.setEnd last wide, phase := .ready last }

/-- Opens the unit of the next value of the cursor below. -/
def openUnit : EStateM Fault (CalendarCursor σ) Unit := do
  below BucketCursor.openNext
  let more ← below ValueStream.hasValue
  let c ← get
  match if more then BucketCursor.pendingTime c.inner else none with
  | none => set { c with phase := .spent }
  | some time =>
    match c.unitAround time with
    | .ok (start, last) => set (c.pin start last)
    | .error fault => throw fault

/-- Opens the first unit. -/
def fill : EStateM Fault (CalendarCursor σ) Unit := do
  match (← get).phase with
  | .unread => openUnit
  | _ => pure ()

/-- Whether the next value of the cursor below belongs to the open unit. -/
def hasValue : EStateM Fault (CalendarCursor σ) Bool := do
  fill
  match (← get).phase with
  | .ready last =>
    if ← below ValueStream.hasValue then
      return match BucketCursor.pendingTime (← get).inner with
        | some time => time < last
        | none => false
    else
      return false
  | _ => return false

/-- The next value of the open unit. -/
def nextValue : EStateM Fault (CalendarCursor σ) Float := do
  if ← hasValue then
    below ValueStream.nextValue
  else
    throw (.noValue (← get).text)

/-- The time that stands for the open unit: its start, found backwards from its end. -/
def bucketTime (c : CalendarCursor σ) : Except Fault Word :=
  match c.phase with
  | .ready last => do
    let next ← c.unitStart last
    let start ← orOutOfRange last (c.unit.previous? next)
    orOutOfRange last (c.zone.localMidnight? start)
  | _ => .error (.noValue c.text)

/-- Opens the next unit. -/
def openNext : EStateM Fault (CalendarCursor σ) Unit := do
  match (← get).phase with
  | .spent => pure ()
  | _ => openUnit

/-- Goes to the first sample at a time or later. -/
def reposition (time : Word) : EStateM Fault (CalendarCursor σ) Unit := do
  below (BucketCursor.reposition time)
  modify fun c => { c with phase := .unread }

/-- The start of the first unit that starts at a time or later. -/
def unitFrom (c : CalendarCursor σ) (time : Word) : Except Fault Word := do
  let start ← c.unitStart time
  let midnight ← orOutOfRange time (c.zone.localMidnight? start)
  if midnight = time then
    return time
  else
    let next ← orOutOfRange time (c.unit.next? start)
    orOutOfRange time (c.zone.localMidnight? next)

/-- Goes to the first unit that starts at a time or later. -/
def seek (time : Word) : EStateM Fault (CalendarCursor σ) Unit := do
  match (← get).unitFrom time with
  | .ok target => reposition target
  | .error fault => throw fault

instance : BucketCursor (CalendarCursor σ) where
  hasValue := hasValue
  nextValue := nextValue
  pending c := ValueStream.pending c.inner
  bucketTime := bucketTime
  openNext := openNext
  seek := seek
  reposition := reposition
  pendingTime c := BucketCursor.pendingTime c.inner
  setWidth _ c := c
  setEnd _ c := c
  text := text
  feed c := BucketCursor.feed c.inner

end CalendarCursor

end TimeBuckets
