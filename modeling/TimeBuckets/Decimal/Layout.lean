/-
How a double is written.

* `plain` — the shortest digits, never with an exponent: `0.1`, `-0`, `1000000`, `inf`;
* `json` — the shortest digits as a JSON number: always with a point or an exponent;
* `places` — a fixed number of places after the point, rounded from the exact value.

`plain` is the text of values in messages, in states and in tables of points.
-/
import TimeBuckets.Decimal.Shortest

namespace TimeBuckets.Decimal

/-- A text of `n` zeros. -/
def zeros (n : Nat) : String := String.ofList (List.replicate n '0')

/-- A sign and a text. -/
def signed (negative : Bool) (text : String) : String :=
  if negative then "-" ++ text else text

/-- Digits with a point after the first `k` of them. -/
def pointed (digits : String) (k : Nat) : String :=
  let cs := digits.toList
  String.ofList (cs.take k) ++ "." ++ String.ofList (cs.drop k)

namespace Scientific

/-- The value in positional notation: a whole number has no point. -/
def positional (s : Scientific) : String :=
  let digits := toString s.digits
  let width : Int := digits.length
  if 0 ≤ s.exponent then
    digits ++ zeros s.exponent.toNat
  else if 0 < width + s.exponent then
    pointed digits (width + s.exponent).toNat
  else
    "0." ++ zeros (-(width + s.exponent)).toNat ++ digits

/-- The value with one digit before the point and an exponent that always has a sign. -/
def exponential (s : Scientific) : String :=
  let digits := toString s.digits
  let power : Int := digits.length + s.exponent - 1
  let body := if digits.length = 1 then digits else pointed digits 1
  body ++ "e" ++ (if power < 0 then toString power else "+" ++ toString power)

/-- Where the point stands, counted from the first digit. -/
def pointPosition (s : Scientific) : Int :=
  (toString s.digits).length + s.exponent

end Scientific

/-- A double as its shortest digits in positional notation.  Of two nearest decimals the one
farther from zero is taken. -/
def plain (x : Float) : String :=
  match Binary.ofFloat x with
  | .nan => "NaN"
  | .infinite negative => signed negative "inf"
  | .finite negative 0 _ => signed negative "0"
  | .finite negative m q => signed negative (shortest .away m q).positional

/-- A double as a JSON number: positional from `1e-5` up to `1e16`, with at least one digit
after the point, and with an exponent outside.  What is no number is `null`. -/
def json (x : Float) : String :=
  match Binary.ofFloat x with
  | .nan => "null"
  | .infinite _ => "null"
  | .finite negative 0 _ => signed negative "0.0"
  | .finite negative m q =>
    let s := shortest .toEven m q
    let point := s.pointPosition
    signed negative <|
      if point ≤ -5 ∨ 16 < point then s.exponential
      else if 0 ≤ s.exponent then s.positional ++ ".0"
      else s.positional

/-- A double with `n` places after the point: the exact value rounded, a tie to the even
neighbour.  The sign of a value that rounds to zero is kept. -/
def places (n : Nat) (x : Float) : String :=
  match Binary.ofFloat x with
  | .nan => "NaN"
  | .infinite negative => signed negative "inf"
  | .finite negative m q =>
    let ratio := Binary.toRatio m q
    let units := Rounding.toEven.divide (ratio.1 * Nat.pow 10 n) ratio.2
    let digits := toString units
    let padded := zeros (n + 1 - digits.length) ++ digits
    signed negative (if n = 0 then padded else pointed padded (padded.length - n))

end TimeBuckets.Decimal
