/-
The exact value of a double.

* `Binary` — a double taken apart: not a number, infinite, or a sign and the
  magnitude `mantissa · 2 ^ exponent`;
* `Binary.ofFloat` — the parts of a given double;
* `Binary.toRatio` — a magnitude as a fraction of natural numbers.

All decimal text is computed from these exact values, in natural numbers.
-/

namespace TimeBuckets.Decimal

/-- A double, taken apart. -/
inductive Binary
  | nan
  | infinite (negative : Bool)
  | finite (negative : Bool) (mantissa : Nat) (exponent : Int)
  deriving DecidableEq, Repr

namespace Binary

/-- The bit in front of the 52 bits of a fraction. -/
def leadingBit : Nat := Nat.pow 2 52

/-- The parts of the double with these 64 bits: a sign, eleven bits of exponent and 52 of
fraction, where a normal number has a leading one in front of its fraction. -/
def ofBits (bits : Nat) : Binary :=
  let negative := bits / (2048 * leadingBit) % 2 == 1
  let exponent : Nat := bits / leadingBit % 2048
  let fraction := bits % leadingBit
  if exponent = 2047 then
    if fraction = 0 then .infinite negative else .nan
  else if exponent = 0 then
    .finite negative fraction (-1074)
  else
    .finite negative (leadingBit + fraction) ((exponent : Int) - 1075)

/-- The parts of a double. -/
def ofFloat (x : Float) : Binary := ofBits x.toBits.toNat

end Binary

/-- The power `base ^ e` as a fraction, numerator first: one of the two is 1. -/
def powerRatio (base : Nat) (e : Int) : Nat × Nat :=
  (Nat.pow base e.toNat, Nat.pow base (-e).toNat)

/-- The magnitude `mantissa · 2 ^ exponent` as a fraction, numerator first. -/
def Binary.toRatio (mantissa : Nat) (exponent : Int) : Nat × Nat :=
  let p := powerRatio 2 exponent
  (mantissa * p.1, p.2)

end TimeBuckets.Decimal
