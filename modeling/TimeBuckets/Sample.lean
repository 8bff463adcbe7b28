/-
Samples and points.

* `Reading` — the value of a sample, a whole number or a real one;
* `Sample` — a reading and its time;
* `Point` — the aggregate of a bucket and the time that stands for the bucket.

Times are milliseconds since the start of 1970 in UTC.  Whole readings are kept as words, so
that the difference of two large ones is exact.
-/
import TimeBuckets.Word
import TimeBuckets.Decimal.Layout

namespace TimeBuckets

/-- The double nearest to a word. -/
def Word.toReal (w : Word) : Float := Float.ofInt w.toInt

/-- The decimal text of a word. -/
def Word.text (w : Word) : String := toString w.toInt

/-- The value of a sample. -/
inductive Reading
  | whole (value : Word)
  | real (value : Float)

namespace Reading

/-- The reading as a double. -/
def toReal : Reading → Float
  | whole w => w.toReal
  | real x => x

/-- Whether the reading is a whole number by kind, whatever its value. -/
def isWhole : Reading → Bool
  | whole _ => true
  | real _ => false

/-- The text of a reading. -/
def text : Reading → String
  | whole w => w.text
  | real x => Decimal.plain x

end Reading

/-- A reading at a time. -/
structure Sample where
  time : Word
  reading : Reading

namespace Sample

/-- The reading as a double. -/
def toReal (s : Sample) : Float := s.reading.toReal

/-- The milliseconds from an earlier sample to this one, which a word need not hold. -/
def since (s earlier : Sample) : Int := s.time.toInt - earlier.time.toInt

/-- The text of a sample in messages and states. -/
def text (s : Sample) : String :=
  "(timestamp=" ++ s.time.text ++ ", value=" ++ s.reading.text ++ ")"

end Sample

/-- The aggregate of one bucket. -/
structure Point where
  time : Word
  value : Float

namespace Point

/-- The text of a point in messages and states. -/
def text (p : Point) : String :=
  "(timestamp=" ++ p.time.text ++ ", value=" ++ Decimal.plain p.value ++ ")"

end Point

end TimeBuckets
