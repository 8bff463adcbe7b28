/-
Reading the time of a sample.

* `commonPatterns` — the patterns that are always tried;
* `internetTime?` — a date and time with an offset, such as `2024-01-15T06:00:00+02:00`;
* `readTime?` — a time in any of the forms, a configured pattern going first.

A whole number is a time in milliseconds already.
-/
import TimeBuckets.Timestamp.Pattern

namespace TimeBuckets

/-- The patterns that are always tried, in this order. -/
def commonPatterns : List (List PatternItem) :=
  ["%Y-%m-%d %H:%M:%S", "%Y-%m-%dT%H:%M:%S", "%Y-%m-%dT%H:%M:%SZ", "%Y-%m-%d", "%m/%d/%Y",
   "%d/%m/%Y", "%Y/%m/%d"].map pattern

/-- Exactly `n` digits in front of a text, stored as a field, and what follows them. -/
def fixedNumber? (item : NumberItem) (n : Nat) (s : List Char) (f : Fields) :
    Option (Fields × List Char) := do
  let (digits, rest) := takeDigits n s
  if digits.length = n then
    let value ← Text.natural? digits
    return (← item.store? value f, rest)
  else none

/-- The rest of a text behind a character. -/
def afterChar? (c : Char) : List Char → Option (List Char)
  | d :: rest => if c = d then some rest else none
  | [] => none

/-- Two digits in front of a text, and what follows them. -/
def twoDigits? : List Char → Option (Nat × List Char)
  | a :: b :: rest => do return (10 * (← Text.digitValue? a) + (← Text.digitValue? b), rest)
  | _ => none

/-- The offset from UTC in seconds, with nothing behind it: `Z`, or a sign, hours and minutes
below a full day.  The sign may be the true minus sign U+2212. -/
def offset? (s : List Char) : Option Int := do
  let clock (rest : List Char) : Option Int := do
    let (hours, rest) ← twoDigits? rest
    let rest ← afterChar? ':' rest
    let (minutes, rest) ← twoDigits? rest
    if hours < 24 ∧ minutes < 60 ∧ rest = [] then return (hours * 60 + minutes) * 60 else none
  match s with
  | ['Z'] => return 0
  | ['z'] => return 0
  | '+' :: rest => clock rest
  | '-' :: rest => return -(← clock rest)
  | '−' :: rest => return -(← clock rest)
  | _ => none

/-- The time in a date, a time of day and an offset from UTC, each of fixed width but for the
fraction of a second. -/
def internetTime? (s : List Char) : Option Word := do
  let (f, s) ← fixedNumber? .year 4 s {}
  let (f, s) ← fixedNumber? .month 2 (← afterChar? '-' s) f
  let (f, s) ← fixedNumber? .day 2 (← afterChar? '-' s) f
  let s ← match s with
    | c :: rest => if c = 'T' ∨ c = 't' ∨ c = ' ' then some rest else none
    | [] => none
  let (f, s) ← fixedNumber? .hour 2 s f
  let (f, s) ← fixedNumber? .minute 2 (← afterChar? ':' s) f
  let (f, s) ← fixedNumber? .second 2 (← afterChar? ':' s) f
  let (f, s) ← match s with
    | '.' :: rest => readFraction? rest f
    | _ => some (f, s)
  let offset ← offset? s
  let moment ← f.moment?
  Word.ofInt? (moment.toInt - 1000 * offset)

/-- The time in a text, by the first of these that fits: a whole number, the configured
pattern, the common patterns and the form with an offset. -/
def readTime? (configured : Option (List PatternItem)) (s : List Char) : Option Word :=
  match Text.word? s with
  | some w => some w
  | none =>
    let byPattern (items : List PatternItem) : Option Word := do
      (← matchPattern? items s).moment?
    match (configured.toList ++ commonPatterns).findSome? byPattern with
    | some w => some w
    | none => internetTime? s

end TimeBuckets
