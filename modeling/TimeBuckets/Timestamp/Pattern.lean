/-
Patterns of written moments.

* `PatternItem` — a part of a pattern: blanks, a character, a number, a name or a fraction;
* `pattern` — the parts of a pattern such as `%Y-%m-%d %H:%M:%S`;
* `matchPattern?` — the fields that a whole text gives when it is read by a pattern.

Numbers need no leading zeros and may have blanks in front.  Blanks in a pattern stand for
any number of blanks, even none.

The directives of dates and times that are known are those of `directive` and `%.f`, numbers also
with a mark for padding, which means nothing when a text is read.  All others, such as weekdays,
long names of months, offsets, seconds since 1970 and fractions of a fixed length, are taken for
unknown and match nothing.
-/
import TimeBuckets.Text.Blank
import TimeBuckets.Text.Numeral
import TimeBuckets.Timestamp.Fields

namespace TimeBuckets

/-- A number in a pattern. -/
inductive NumberItem
  | year
  | shortYear
  | month
  | day
  | ordinal
  | hour
  | halfHour
  | minute
  | second
  deriving DecidableEq, Repr

/-- A part of a pattern. -/
inductive PatternItem
  | blanks
  | char (c : Char)
  | number (n : NumberItem)
  /-- The first three letters of the English name of a month. -/
  | monthName
  /-- `AM` or `PM`. -/
  | halfDay
  /-- A point and a fraction of a second, or nothing. -/
  | fraction
  /-- A directive that is unknown and matches nothing. -/
  | unknown
  deriving DecidableEq, Repr

/-- The parts that the letter of a directive stands for. -/
def directive : Char → List PatternItem
  | 'Y' => [.number .year]
  | 'y' => [.number .shortYear]
  | 'm' => [.number .month]
  | 'd' | 'e' => [.number .day]
  | 'j' => [.number .ordinal]
  | 'H' | 'k' => [.number .hour]
  | 'I' | 'l' => [.number .halfHour]
  | 'M' => [.number .minute]
  | 'S' => [.number .second]
  | 'b' | 'h' => [.monthName]
  | 'p' | 'P' => [.halfDay]
  | 'F' => [.number .year, .char '-', .number .month, .char '-', .number .day]
  | 'D' | 'x' => [.number .month, .char '/', .number .day, .char '/', .number .shortYear]
  | 'v' => [.number .day, .char '-', .monthName, .char '-', .number .year]
  | 'R' => [.number .hour, .char ':', .number .minute]
  | 'T' | 'X' => [.number .hour, .char ':', .number .minute, .char ':', .number .second]
  | 'r' => [.number .halfHour, .char ':', .number .minute, .char ':', .number .second, .blanks,
      .halfDay]
  | 'n' | 't' => [.blanks]
  | '%' => [.char '%']
  | _ => [.unknown]

/-- The part that a directive with a mark for padding stands for.  Only numbers can have one. -/
def padded (c : Char) : PatternItem :=
  match directive c with
  | [.number n] => .number n
  | _ => .unknown

/-- The parts of a pattern. -/
def patternItems : List Char → List PatternItem
  | [] => []
  | ['%'] => [.unknown]
  | '%' :: '.' :: 'f' :: rest => .fraction :: patternItems rest
  | '%' :: '-' :: c :: rest => padded c :: patternItems rest
  | '%' :: '_' :: c :: rest => padded c :: patternItems rest
  | '%' :: '0' :: c :: rest => padded c :: patternItems rest
  | '%' :: c :: rest => directive c ++ patternItems rest
  | c :: rest => (if Text.isBlank c then .blanks else .char c) :: patternItems rest

/-- The parts of a pattern. -/
def pattern (text : String) : List PatternItem := patternItems text.toList

namespace NumberItem

/-- The greatest number of digits of a number without a sign. -/
def width : NumberItem → Nat
  | year => 4
  | ordinal => 3
  | _ => 2

/-- The fields with a number added, if it lies in its range and agrees with them. -/
def store? (item : NumberItem) (n : Int) (f : Fields) : Option Fields :=
  let within (low high : Int) (set : Nat → Option Fields) : Option Fields :=
    if low ≤ n ∧ n ≤ high then set n.toNat else none
  match item with
  | year => do return { f with year := ← Fields.agree? f.year n }
  | shortYear => within 0 99 fun v => do
    return { f with shortYear := ← Fields.agree? f.shortYear v }
  | month => within 1 12 fun v => do return { f with month := ← Fields.agree? f.month v }
  | day => within 1 31 fun v => do return { f with day := ← Fields.agree? f.day v }
  | ordinal => within 1 366 fun v => do
    return { f with ordinal := ← Fields.agree? f.ordinal v }
  | hour => within 0 23 fun v => do
    return { f with
      afternoon := ← Fields.agree? f.afternoon (decide (12 ≤ v))
      halfHour := ← Fields.agree? f.halfHour (v % 12) }
  | halfHour => within 1 12 fun v => do
    return { f with halfHour := ← Fields.agree? f.halfHour (v % 12) }
  | minute => within 0 59 fun v => do return { f with minute := ← Fields.agree? f.minute v }
  | second => within 0 60 fun v => do return { f with second := ← Fields.agree? f.second v }

end NumberItem

/-- The digits in front of a text, `limit` at most, and what follows them. -/
def takeDigits (limit : Nat) (s : List Char) : List Char × List Char :=
  let digits := (s.take limit).takeWhile Char.isDigit
  (digits, s.drop digits.length)

/-- The number in front of a text, with `limit` digits at most, and what follows it. -/
def numberUpTo? (limit : Nat) (s : List Char) : Option (Nat × List Char) :=
  let (digits, rest) := takeDigits limit s
  (Text.natural? digits).map fun n => (n, rest)

/-- The number of a pattern in front of a text, and what follows it.  A year may have a sign
and then any number of digits. -/
def readNumber? (item : NumberItem) (s : List Char) : Option (Int × List Char) :=
  let signless := (numberUpTo? item.width s).map fun (n, rest) => ((n : Int), rest)
  match item, s with
  | .year, '-' :: rest => (numberUpTo? rest.length rest).map fun (n, rest) => (-(n : Int), rest)
  | .year, '+' :: rest => (numberUpTo? rest.length rest).map fun (n, rest) => ((n : Int), rest)
  | _, _ => signless

/-- The first three letters of the names of the months. -/
def monthNames : List (List Char) :=
  [['j', 'a', 'n'], ['f', 'e', 'b'], ['m', 'a', 'r'], ['a', 'p', 'r'], ['m', 'a', 'y'],
   ['j', 'u', 'n'], ['j', 'u', 'l'], ['a', 'u', 'g'], ['s', 'e', 'p'], ['o', 'c', 't'],
   ['n', 'o', 'v'], ['d', 'e', 'c']]

/-- The number of a month by the start of its name, in any case. -/
def monthOfName? (s : List Char) : Option Nat :=
  (monthNames.findIdx? (· == (s.take 3).map Char.toLower)).map (· + 1)

/-- The billionths of a second that the digits of a fraction stand for.  Digits after the
ninth do not count. -/
def nanosOf (digits : List Char) : Nat :=
  let kept := digits.take 9
  (Text.natural? kept).getD 0 * Nat.pow 10 (9 - kept.length)

/-- The fields with the fraction that stands behind a point, and what follows it. -/
def readFraction? (s : List Char) (f : Fields) : Option (Fields × List Char) :=
  match s.takeWhile Char.isDigit with
  | [] => none
  | digits => do
    return ({ f with nanos := ← Fields.agree? f.nanos (nanosOf digits) },
      s.dropWhile Char.isDigit)

/-- Reads one part of a pattern: the fields with what it says, and the rest of the text. -/
def matchItem? (item : PatternItem) (s : List Char) (f : Fields) : Option (Fields × List Char) :=
  match item with
  | .blanks => some (f, Text.trimStart s)
  | .char c =>
    match s with
    | d :: rest => if c = d then some (f, rest) else none
    | [] => none
  | .number n => do
    let (value, rest) ← readNumber? n (Text.trimStart s)
    return (← n.store? value f, rest)
  | .monthName => do
    let month ← monthOfName? s
    return ({ f with month := ← Fields.agree? f.month month }, s.drop 3)
  | .halfDay =>
    match (s.take 2).map Char.toLower with
    | ['a', 'm'] => do
      return ({ f with afternoon := ← Fields.agree? f.afternoon false }, s.drop 2)
    | ['p', 'm'] => do
      return ({ f with afternoon := ← Fields.agree? f.afternoon true }, s.drop 2)
    | _ => none
  | .fraction =>
    match s with
    | '.' :: rest => readFraction? rest f
    | _ => some (f, s)
  | .unknown => none

/-- Reads the parts of a pattern one after the other up to the end of the text. -/
def matchItems? : List PatternItem → List Char → Fields → Option Fields
  | [], s, f => if s.isEmpty then some f else none
  | item :: items, s, f => do
    let (f, rest) ← matchItem? item s f
    matchItems? items rest f

/-- The fields that a whole text gives when it is read by a pattern. -/
def matchPattern? (items : List PatternItem) (text : List Char) : Option Fields :=
  matchItems? items text {}

end TimeBuckets
