/-
Tables of comma-separated values.

* `records` — the records of a table, each a list of fields, all in bytes;
* `decode` — the text of a record, if all its fields are text, or what is wrong with the first
  one that is not.

A field that starts with a quote goes on to the next quote that is not doubled, over commas
and line ends.  A line feed, a carriage return or both end a record, and empty lines are no
records.
-/
import TimeBuckets.Fault

namespace TimeBuckets.Table

/-- A field of a record, in bytes. -/
abbrev Field := List UInt8

/-- The place in a record that has been reached. -/
inductive Place
  /-- Between records. -/
  | outside
  /-- At the start of a field. -/
  | start
  /-- In a field without quotes, or behind the closing quote. -/
  | bare
  /-- Between quotes. -/
  | quoted
  /-- Behind a quote that either closes the field or is the first of two. -/
  | closing
  deriving DecidableEq, Repr

/-- The comma. -/
def comma : UInt8 := 44

/-- The quote. -/
def quote : UInt8 := 34

/-- Whether a byte ends a line. -/
def endsLine (b : UInt8) : Bool := b = 10 || b = 13

/-- What a byte does. -/
inductive Step
  /-- It is not part of a field. -/
  | drop (next : Place)
  /-- It is part of the field. -/
  | keep (next : Place)
  /-- It ends the field. -/
  | endField
  /-- It ends the field and the record. -/
  | endRecord
  deriving DecidableEq, Repr

/-- What a byte does where quotes mean nothing. -/
def bareStep (b : UInt8) : Step :=
  if b = comma then .endField else if endsLine b then .endRecord else .keep .bare

/-- What a byte does at a place. -/
def step (b : UInt8) : Place → Step
  | .outside =>
    if endsLine b then .drop .outside else if b = quote then .drop .quoted else bareStep b
  | .start => if b = quote then .drop .quoted else bareStep b
  | .bare => bareStep b
  | .quoted => if b = quote then .drop .closing else .keep .quoted
  | .closing => if b = quote then .keep .quoted else bareStep b

/-- A record whose fields are held in reverse, with its last field. -/
def finish (fields : List Field) (field : Field) : List Field :=
  (field.reverse :: fields).reverse

/-- The records in a text, from a place in a record.  The fields of that record and the bytes
of its last field are held in reverse. -/
def recordsFrom : List UInt8 → Place → List Field → Field → List (List Field)
  | [], .outside, _, _ => []
  | [], _, fields, field => [finish fields field]
  | b :: rest, place, fields, field =>
    match step b place with
    | .drop next => recordsFrom rest next fields field
    | .keep next => recordsFrom rest next fields (b :: field)
    | .endField => recordsFrom rest .start (field.reverse :: fields) []
    | .endRecord => finish fields field :: recordsFrom rest .outside [] []

/-- A text without the mark of its byte order. -/
def withoutMark : List UInt8 → List UInt8
  | 0xEF :: 0xBB :: 0xBF :: rest => rest
  | bytes => bytes

/-- The records of a table. -/
def records (bytes : List UInt8) : List (List Field) :=
  recordsFrom (withoutMark bytes) .outside [] []

/-- The text in a field, if it is text. -/
def text? (field : Field) : Option String := String.fromUTF8? ⟨field.toArray⟩

/-- The number of bytes in the longest text that a field begins with. -/
def textLength (field : Field) : Nat :=
  ((List.range field.length).filter fun n => (text? (field.take n)).isSome).foldl max 0

/-- The text of a record, whose number is in the fault if a field is not text. -/
def decode (record : Nat) (fields : List Field) : Except DecodingFault (List String) :=
  let texts := fields.mapIdx fun i field =>
    match text? field with
    | some text => .ok text
    | none => .error ⟨record, i, textLength field⟩
  texts.mapM id

end TimeBuckets.Table
