/-
Reading a double.

* `nearestFloat` — the double nearest to `digits · 10 ^ exponent`;
* `float?` — an optional sign and then a name of a special value or a decimal with an
  optional fraction and exponent.

The result is correctly rounded: too large a value gives infinity, too small a one zero.
-/
import TimeBuckets.Text.Numeral

namespace TimeBuckets.Decimal

open TimeBuckets.Text

/-- The double nearest to `digits · 10 ^ exponent`.  Beyond 400 places on either side the
answer is known without the power. -/
def nearestFloat (digits : Nat) (exponent : Int) : Float :=
  let lead : Int := (toString digits).length + exponent
  if digits = 0 then 0
  else if 400 < lead then 1 / 0
  else if lead < -400 then 0
  else if 0 ≤ exponent then Float.ofScientific digits false exponent.toNat
  else Float.ofScientific digits true (-exponent).toNat

/-- Leading digits and what follows them. -/
def spanDigits (s : List Char) : List Char × List Char :=
  (s.takeWhile Char.isDigit, s.dropWhile Char.isDigit)

/-- The exponent part of a decimal: nothing, or `e`, an optional sign and digits. -/
def exponent? : List Char → Option Int
  | [] => some 0
  | 'e' :: rest => integer? rest
  | 'E' :: rest => integer? rest
  | _ => none

/-- A decimal without a sign: digits, a point and an exponent, with at least one digit
before or after the point. -/
def unsigned? (s : List Char) : Option Float :=
  let (whole, rest) := spanDigits s
  let (fraction, rest) :=
    match rest with
    | '.' :: rest => spanDigits rest
    | _ => ([], rest)
  do
    let digits ← natural? (whole ++ fraction)
    let exponent ← exponent? rest
    return nearestFloat digits (exponent - fraction.length)

/-- A special value or a decimal, without a sign.  The names are read in any case. -/
def magnitude? (s : List Char) : Option Float :=
  match String.ofList (s.map Char.toLower) with
  | "inf" => some (1 / 0)
  | "infinity" => some (1 / 0)
  | "nan" => some (0 / 0)
  | _ => unsigned? s

/-- The double that a text stands for. -/
def float? : List Char → Option Float
  | '+' :: rest => magnitude? rest
  | '-' :: rest => (magnitude? rest).map fun x => -x
  | s => magnitude? s

end TimeBuckets.Decimal
