/-
Records as JSON.

* `fields?` — the fields of a record, written as an object or as an array in their order;
* `sample?`, `point?`, `interval?`, `rate?` — records from JSON values;
* `sampleText`, `pointText`, `intervalText`, `rateText` — the compact text of records;
* `prettyPoints` — a list of points over several lines;
* `normalize?` — the compact text of a record that is given in any spelling.

A record needs each of its fields once.  Members with other names do not count in objects.
-/
import TimeBuckets.Interval
import TimeBuckets.Json.Value
import TimeBuckets.Rate
import TimeBuckets.Statistic

namespace TimeBuckets.Json

/-- The value of the only member with a key. -/
def single? (members : List (Option String × Value)) (key : String) : Option Value :=
  match members.filter fun m => m.1 == some key with
  | [(_, value)] => some value
  | _ => none

/-- The values of the fields with these names.  Every key of an object must be readable. -/
def fields? (names : List String) : Value → Option (List Value)
  | .array items => if items.length = names.length then some items else none
  | .object members =>
    if members.all fun m => m.1.isSome then names.mapM (single? members) else none
  | _ => none

/-- A signed word. -/
def word? : Value → Option Word
  | .number text =>
    match text.toNumber? with
    | some (.whole n) => Word.ofInt? n
    | _ => none
  | _ => none

/-- A double, which may be written as a whole number. -/
def real? : Value → Option Float
  | .number text =>
    match text.toNumber? with
    | some (.whole n) => some (Float.ofInt n)
    | some (.real x) => some x
    | none => none
  | _ => none

/-- A reading: a word if it is one, and a double otherwise. -/
def reading? (v : Value) : Option Reading :=
  match word? v with
  | some w => some (.whole w)
  | none => (real? v).map .real

/-- A truth value. -/
def flag? : Value → Option Bool
  | .bool b => some b
  | _ => none

/-- One of some names, written as a text or as an object with the name as its only key. -/
def choice? {α : Type} (choices : List (String × α)) : Value → Option α
  | .string (some name) => choices.lookup name
  | .object [(some name, .null)] => choices.lookup name
  | _ => none

/-- The names of interval units. -/
def unitNames : List (String × IntervalUnit) :=
  [.fixed, .month, .year, .run].map fun u => (u.name, u)

/-- The names of counter kinds. -/
def kindNames : List (String × CounterKind) :=
  [.monotonic, .rising, .falling].map fun k => (k.name, k)

/-- The names of statistics. -/
def statisticNames : List (String × Statistic) :=
  Statistic.all.map fun s => (s.name, s)

/-- A sample. -/
def sample? (v : Value) : Option Sample := do
  match ← fields? ["timestamp", "value"] v with
  | [time, reading] => return ⟨← word? time, ← reading? reading⟩
  | _ => none

/-- A point. -/
def point? (v : Value) : Option Point := do
  match ← fields? ["timestamp", "value"] v with
  | [time, value] => return ⟨← word? time, ← real? value⟩
  | _ => none

/-- An interval. -/
def interval? (v : Value) : Option Interval := do
  match ← fields? ["width_ms", "unit"] v with
  | [width, unit] => return ⟨← word? width, ← choice? unitNames unit⟩
  | _ => none

/-- Rate options. -/
def rate? (v : Value) : Option RateOptions := do
  match ← fields? ["counter", "counter_kind", "counter_max", "reset_value"] v with
  | [counted, kind, max, reset] =>
    return ⟨← flag? counted, ← choice? kindNames kind, ← word? max, ← word? reset⟩
  | _ => none

/-- A name as JSON.  It has no character that needs an escape. -/
def nameText (name : String) : String := "\"" ++ name ++ "\""

/-- A record as JSON, from the names of its fields and the texts of their values. -/
def recordText (fields : List (String × String)) : String :=
  "\x7b" ++ ",".intercalate (fields.map fun f => nameText f.1 ++ ":" ++ f.2) ++ "\x7d"

/-- A reading as JSON. -/
def readingText : Reading → String
  | .whole w => w.text
  | .real x => Decimal.json x

/-- A sample as JSON. -/
def sampleText (s : Sample) : String :=
  recordText [("timestamp", s.time.text), ("value", readingText s.reading)]

/-- A point as JSON. -/
def pointText (p : Point) : String :=
  recordText [("timestamp", p.time.text), ("value", Decimal.json p.value)]

/-- An interval as JSON. -/
def intervalText (i : Interval) : String :=
  recordText [("width_ms", i.width.text), ("unit", nameText i.unit.name)]

/-- Rate options as JSON. -/
def rateText (o : RateOptions) : String :=
  recordText [("counter", toString o.counted), ("counter_kind", nameText o.kind.name),
    ("counter_max", o.max.text), ("reset_value", o.reset.text)]

/-- A point over several lines, as an item of a list. -/
def prettyPoint (p : Point) : String :=
  "  \x7b\n    \"timestamp\": " ++ p.time.text ++ ",\n    \"value\": " ++ Decimal.json p.value ++
    "\n  \x7d"

/-- A list of points over several lines. -/
def prettyPoints : List Point → String
  | [] => "[]"
  | points => "[\n" ++ ",\n".intercalate (points.map prettyPoint) ++ "\n]"

/-- A kind of record that can be read from JSON and written again. -/
inductive RecordKind
  | sample
  | reading
  | point
  | interval
  | unit
  | rate
  | counterKind
  | statistic
  deriving DecidableEq, Repr

/-- The compact text of a record that is given as JSON, if it is one of that kind. -/
def normalize? (kind : RecordKind) (text : String) : Option String := do
  let v ← Value.parse? text
  match kind with
  | .sample => return sampleText (← sample? v)
  | .reading => return readingText (← reading? v)
  | .point => return pointText (← point? v)
  | .interval => return intervalText (← interval? v)
  | .unit => return nameText (← choice? unitNames v).name
  | .rate => return rateText (← rate? v)
  | .counterKind => return nameText (← choice? kindNames v).name
  | .statistic => return nameText (← choice? statisticNames v).name

end TimeBuckets.Json
