/-
Numbers in JSON text.

* `NumberText` — the parts of a number as it is written;
* `Number` — what a number counts as: a whole number of 64 bits or a double;
* `NumberText.toNumber?` — the number that is written, `none` if it is too large for a double.

A fraction is read fast rather than exactly: digits are collected in an unsigned word as long
as they fit, and that word is multiplied or divided by a power of ten in double arithmetic.
-/
import TimeBuckets.Word
import TimeBuckets.Text.Numeral

namespace TimeBuckets.Json

open TimeBuckets.Text

/-- The parts of a number as it is written: digits before the point, digits after it if there
is one, and the sign and digits of the exponent if there is one. -/
structure NumberText where
  negative : Bool
  whole : List Char
  fraction : Option (List Char)
  exponent : Option (Bool × List Char)
  deriving DecidableEq, Repr

/-- What a number counts as. -/
inductive Number
  | whole (value : Int)
  | real (value : Float)

/-- The greatest unsigned word. -/
def greatestUnsigned : Nat := UInt64.size - 1

/-- Adds digits to a word as long as it does not overflow, and gives back the digits that are
left. -/
def collect (word : Nat) : List Char → Nat × List Char
  | [] => (word, [])
  | c :: rest =>
    match digitValue? c with
    | none => (word, c :: rest)
    | some d =>
      if greatestUnsigned < 10 * word + d then (word, c :: rest) else collect (10 * word + d) rest

/-- A power of ten as a double. -/
def powerOfTen (n : Nat) : Float := Float.ofScientific 1 false n

/-- A double times a power of ten, in steps of at most 308, `fuel` steps at most.  There is no
result above the greatest double. -/
def scale? : Nat → Float → Int → Option Float
  | 0, x, _ => some x
  | fuel + 1, x, e =>
    if e.natAbs ≤ 308 then
      if 0 ≤ e then
        let y := x * powerOfTen e.toNat
        if y.isInf then none else some y
      else
        some (x / powerOfTen (-e).toNat)
    else if x == 0 then some x
    else if 0 ≤ e then none
    else scale? fuel (x / powerOfTen 308) (e + 308)

namespace NumberText

/-- The digits of the number as a word, and the power of ten that belongs to it. -/
def collected (t : NumberText) : Nat × Int :=
  let (whole, dropped) := collect 0 t.whole
  let fraction := t.fraction.getD []
  let (word, left) := collect whole fraction
  (word, (dropped.length : Int) - (fraction.length - left.length : Nat))

/-- The sum of two exponents within 32 bits. -/
def boundedExponent (e : Int) : Int := max (-2147483648) (min 2147483647 e)

/-- The number as a double, if it is not too large. -/
def toReal? (t : NumberText) : Option Float :=
  let (word, power) := t.collected
  let magnitude :=
    match t.exponent with
    | none => scale? 3 (Float.ofNat word) power
    | some (down, digits) =>
      let e : Int := (natural? digits).getD 0
      if 2147483647 < e then
        if word ≠ 0 ∧ !down then none else some 0
      else
        scale? 3 (Float.ofNat word) (boundedExponent (if down then power - e else power + e))
  magnitude.map fun x => if t.negative then -x else x

/-- The number that is written.  It is whole if it has neither point nor exponent and fits a
signed or unsigned word; a negative zero is a double. -/
def toNumber? (t : NumberText) : Option Number :=
  match t.fraction, t.exponent, natural? t.whole with
  | none, none, some n =>
    if t.negative then
      if n = 0 ∨ -(n : Int) < Word.least then t.toReal?.map .real else some (.whole (-n))
    else if greatestUnsigned < n then t.toReal?.map .real
    else some (.whole n)
  | _, _, _ => t.toReal?.map .real

end NumberText

end TimeBuckets.Json
