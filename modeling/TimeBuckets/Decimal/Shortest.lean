/-
The shortest decimal that reads back as a given double.

* `Scientific` — the value `digits · 10 ^ exponent`;
* `Rounding` — which of two equally near neighbours is taken;
* `shortest` — of the decimals that read back as `m · 2 ^ q`, the nearest among those with
  the fewest digits.

The reals that read back as `m · 2 ^ q` form an interval around it, with its ends included
when `m` is even.  Decimals with one digit more each time are tested against it: of the
multiples of a power of ten, only the two neighbours of the value can be the nearest.
-/
import TimeBuckets.Decimal.Binary

namespace TimeBuckets.Decimal

/-- The value `digits · 10 ^ exponent`. -/
structure Scientific where
  digits : Nat
  exponent : Int
  deriving DecidableEq, Repr

/-- Where a value goes that lies exactly between two neighbours. -/
inductive Rounding
  | away
  | toEven
  deriving DecidableEq, Repr

namespace Rounding

/-- Whether a value with this lower neighbour and `twice` its distance from it goes up, where
the neighbours are `unit` apart. -/
def goesUp (tie : Rounding) (lower twice unit : Nat) : Bool :=
  if twice = unit then
    match tie with
    | .away => true
    | .toEven => lower % 2 == 1
  else
    unit < twice

/-- The quotient of two numbers, rounded to the nearest whole number. -/
def divide (tie : Rounding) (num den : Nat) : Nat :=
  let lower := num / den
  if tie.goesUp lower (2 * (num % den)) den then lower + 1 else lower

end Rounding

/-- The number of decimal digits of a number, none for zero. -/
def digitCount (n : Nat) : Nat :=
  if n = 0 then 0 else (Nat.toDigits 10 n).length

/-- The exponent of the leading digit of a positive fraction. -/
def leadingExponent (num den : Nat) : Int :=
  if den ≤ num then digitCount (num / den) - 1 else -(digitCount ((den - 1) / num) : Int)

/-- The reals that read back as one double, in quarters of its last place: from `low` to
`high` around `value`, with the ends if `closed`. -/
structure Neighbourhood where
  low : Nat
  value : Nat
  high : Nat
  closed : Bool
  deriving DecidableEq, Repr

namespace Neighbourhood

/-- The neighbourhood of `m · 2 ^ q`.  Below the least mantissa of an exponent the next
double is only half as far away, unless that exponent is the least of all. -/
def of (m : Nat) (q : Int) : Neighbourhood where
  low := if m = Binary.leadingBit ∧ q ≠ -1074 then 4 * m - 1 else 4 * m - 2
  value := 4 * m
  high := 4 * m + 2
  closed := m % 2 == 0

/-- Whether a point lies in the neighbourhood, all its bounds being scaled by `scale`. -/
def holds (n : Neighbourhood) (scale point : Nat) : Bool :=
  if n.closed then n.low * scale ≤ point && point ≤ n.high * scale
  else n.low * scale < point && point < n.high * scale

/-- The multiple of `10 ^ e` that reads back and is nearest to the value, if one reads back.
The value is `n.value · 2 ^ (q - 2)`. -/
def onGrid? (n : Neighbourhood) (tie : Rounding) (q e : Int) : Option Scientific :=
  let ten := powerRatio 10 e
  let two := powerRatio 2 (q - 2)
  let step := ten.1 * two.2
  let scale := two.1 * ten.2
  let lower := n.value * scale / step
  let below := n.holds scale (lower * step)
  let above := n.holds scale ((lower + 1) * step)
  if below && above then
    some ⟨tie.divide (n.value * scale) step, e⟩
  else if below then
    some ⟨lower, e⟩
  else if above then
    some ⟨lower + 1, e⟩
  else
    none

/-- The first hit on the grids of `10 ^ e`, `10 ^ (e - 1)` and so on. -/
def search (n : Neighbourhood) (tie : Rounding) (q : Int) : Nat → Int → Scientific
  | 0, e => ⟨0, e⟩
  | fuel + 1, e =>
    match n.onGrid? tie q e with
    | some s => s
    | none => n.search tie q fuel (e - 1)

end Neighbourhood

namespace Scientific

/-- The same value without zeros at the end of its digits, at most `fuel` of them. -/
def stripZeros : Nat → Scientific → Scientific
  | 0, s => s
  | fuel + 1, s =>
    if s.digits % 10 = 0 then stripZeros fuel ⟨s.digits / 10, s.exponent + 1⟩ else s

end Scientific

/-- The nearest of the shortest decimals that read back as the positive double `m · 2 ^ q`.
Seventeen digits always suffice. -/
def shortest (tie : Rounding) (m : Nat) (q : Int) : Scientific :=
  let ratio := Binary.toRatio m q
  let found := (Neighbourhood.of m q).search tie q 18 (leadingExponent ratio.1 ratio.2)
  found.stripZeros 18

end TimeBuckets.Decimal
