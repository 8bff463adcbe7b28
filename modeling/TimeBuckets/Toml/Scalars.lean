/-
Numbers and moments of TOML.

* `integer?` — a whole number in base ten, sixteen, eight or two;
* `float?` — whether a text starts with a number that has a fraction or an exponent;
* `moment?` — whether a text starts with a date, a time of day or both.

Each gives what follows.  Of numbers with a fraction and of moments only the form counts,
since no setting takes one.
-/
import TimeBuckets.Calendar.Date
import TimeBuckets.Decimal.Reader
import TimeBuckets.Toml.Strings

namespace TimeBuckets.Toml

/-- Digits with single underscores between them, and what follows them. -/
def digitGroups (isDigit : Char → Bool) : List Char → List Char × List Char
  | '_' :: c :: rest =>
    if isDigit c then
      let (ds, rest) := digitGroups isDigit rest
      (c :: ds, rest)
    else ([], '_' :: c :: rest)
  | c :: rest =>
    if isDigit c then
      let (ds, rest) := digitGroups isDigit rest
      (c :: ds, rest)
    else ([], c :: rest)
  | [] => ([], [])

/-- One digit or more with single underscores between them. -/
def digits? (isDigit : Char → Bool) : List Char → Option (List Char × List Char)
  | c :: rest => if isDigit c then some (digitGroups isDigit (c :: rest)) else none
  | [] => none

/-- The digits of a whole number without its sign: no zero stands in front of another one. -/
def wholeDigits? : List Char → Option (List Char × List Char)
  | '0' :: rest => some (['0'], rest)
  | s => digits? Char.isDigit s

/-- A sign, and what follows it. -/
def sign (s : List Char) : Bool × List Char :=
  match s with
  | '-' :: rest => (true, rest)
  | '+' :: rest => (false, rest)
  | _ => (false, s)

/-- The number that digits of a base stand for. -/
def inBase (base : Nat) (digits : List Char) : Nat :=
  digits.foldl (fun n c => base * n + (Json.Value.hexValue? c).getD 0) 0

/-- Whether a character is a digit of a base of sixteen or less. -/
def isDigitOf (base : Nat) (c : Char) : Bool := (Json.Value.hexValue? c).any (· < base)

/-- A whole number of some base behind its mark. -/
def based? (base : Nat) (s : List Char) : Option (Int × List Char) :=
  (digits? (isDigitOf base) s).map fun (ds, rest) => ((inBase base ds : Int), rest)

/-- A whole number that fits a word. -/
def integer? (s : List Char) : Option (Int × List Char) := do
  let (n, rest) ← match s with
    | '0' :: 'x' :: rest => based? 16 rest
    | '0' :: 'o' :: rest => based? 8 rest
    | '0' :: 'b' :: rest => based? 2 rest
    | _ => do
      let (negative, s) := sign s
      let (ds, rest) ← wholeDigits? s
      let n : Int := inBase 10 ds
      return (if negative then -n else n, rest)
  if Word.least ≤ n ∧ n ≤ Word.greatest then return (n, rest) else none

/-- The exponent of a number, as digits behind an `e` and a sign. -/
def exponentPart? : List Char → Option (List Char × List Char)
  | c :: rest =>
    if c = 'e' ∨ c = 'E' then
      let (negative, rest) := sign rest
      (digits? Char.isDigit rest).map fun (ds, rest) =>
        ('e' :: (if negative then '-' :: ds else ds), rest)
    else none
  | [] => none

/-- The fraction of a number, as a point and digits. -/
def fractionPart? : List Char → Option (List Char × List Char)
  | '.' :: rest => (digits? Char.isDigit rest).map fun (ds, rest) => ('.' :: ds, rest)
  | _ => none

/-- What follows a number with a fraction, an exponent or both, or a name of a special value.
A number too large for a double is none. -/
def float? (s : List Char) : Option (List Char) :=
  let (negative, unsigned) := sign s
  match unsigned with
  | 'i' :: 'n' :: 'f' :: rest => some rest
  | 'n' :: 'a' :: 'n' :: rest => some rest
  | _ => do
    let (whole, rest) ← wholeDigits? unsigned
    let (tail, rest) ← match fractionPart? rest with
      | some (fraction, rest) =>
        match exponentPart? rest with
        | some (exponent, rest) => some (fraction ++ exponent, rest)
        | none => some (fraction, rest)
      | none => exponentPart? rest
    let x ← Decimal.unsigned? (whole ++ tail)
    if x.isInf ∧ !negative then none else some rest

/-- A number of exactly `n` digits, and what follows it. -/
def fixed? (n : Nat) (s : List Char) : Option (Nat × List Char) := do
  let ds := (s.take n).takeWhile Char.isDigit
  if ds.length = n then return (← Text.natural? ds, s.drop n) else none

/-- The rest of a text behind a character. -/
def after? (c : Char) : List Char → Option (List Char)
  | d :: rest => if c = d then some rest else none
  | [] => none

/-- What follows a date. -/
def date? (s : List Char) : Option (List Char) := do
  let (year, s) ← fixed? 4 s
  let (month, s) ← fixed? 2 (← after? '-' s)
  let (day, s) ← fixed? 2 (← after? '-' s)
  let _ ← Date.ofYmd? year month day
  return s

/-- What follows an hour and a minute with a colon between them. -/
def hourMinute? (s : List Char) : Option (List Char) := do
  let (hour, s) ← fixed? 2 s
  let (minute, s) ← fixed? 2 (← after? ':' s)
  if hour ≤ 23 ∧ minute ≤ 59 then return s else none

/-- What follows a time of day. -/
def dayTime? (s : List Char) : Option (List Char) := do
  let s ← hourMinute? s
  let (second, s) ← fixed? 2 (← after? ':' s)
  if 60 < second then none
  else
    match s with
    | '.' :: c :: rest =>
      if c.isDigit then return (c :: rest).dropWhile Char.isDigit else return s
    | _ => return s

/-- What follows an offset from UTC, if there is one. -/
def skipOffset (s : List Char) : List Char :=
  match s with
  | 'Z' :: rest => rest
  | 'z' :: rest => rest
  | '+' :: rest => (hourMinute? rest).getD s
  | '-' :: rest => (hourMinute? rest).getD s
  | _ => s

/-- What follows a moment: a date, perhaps with a time of day and an offset, or a time of day
alone. -/
def moment? (s : List Char) : Option (List Char) :=
  match date? s with
  | some rest =>
    match rest with
    | c :: time =>
      if c = 'T' ∨ c = 't' ∨ c = ' ' then some (((dayTime? time).map skipOffset).getD rest)
      else some rest
    | [] => some []
  | none => dayTime? s

end TimeBuckets.Toml
