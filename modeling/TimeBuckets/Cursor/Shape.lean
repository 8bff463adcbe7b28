/-
How cursors are put together.

* `Shape` — a grid, runs, or a calendar above a cursor of some shape;
* `Shape.State` — the cursors of a shape;
* `AnyCursor` — a cursor of any shape.
-/
import TimeBuckets.Cursor.Calendar
import TimeBuckets.Cursor.Grid
import TimeBuckets.Cursor.Runs

namespace TimeBuckets

/-- How a cursor is put together. -/
inductive Shape
  | grid
  | runs
  | calendar (inner : Shape)
  deriving DecidableEq, Repr

namespace Shape

/-- The cursors of a shape. -/
def State : Shape → Type
  | grid => Grid
  | runs => Runs
  | calendar inner => CalendarCursor inner.State

/-- The operations of the cursors of a shape. -/
instance bucketCursor : (shape : Shape) → BucketCursor shape.State
  | grid => inferInstanceAs (BucketCursor Grid)
  | runs => inferInstanceAs (BucketCursor Runs)
  | calendar inner =>
    have := inner.bucketCursor
    inferInstanceAs (BucketCursor (CalendarCursor inner.State))

end Shape

/-- A cursor of any shape. -/
structure AnyCursor where
  shape : Shape
  cursor : shape.State

namespace AnyCursor

/-- A grid. -/
def grid (g : Grid) : AnyCursor := ⟨.grid, g⟩

/-- Runs of activity. -/
def runs (r : Runs) : AnyCursor := ⟨.runs, r⟩

/-- Calendar units above a cursor. -/
def calendar (unit : CalendarUnit) (zone : Zone) (inner : AnyCursor) : AnyCursor :=
  ⟨.calendar inner.shape, CalendarCursor.make unit zone inner.cursor⟩

end AnyCursor

end TimeBuckets
