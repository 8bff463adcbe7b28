/-
Whole numbers in decimal digits.

* `digitValue?` — the value of one digit;
* `natural?` — digits only, at least one of them;
* `word?` — an optional sign and digits whose value is a signed 64-bit word;
* `count?` — an optional plus and digits whose value is below 2^64.

Only the ten ASCII digits are digits, and leading zeros are allowed.
-/
import TimeBuckets.Word

namespace TimeBuckets.Text

/-- The value of a decimal digit. -/
def digitValue? (c : Char) : Option Nat :=
  if c.isDigit then some (c.toNat - 48) else none

/-- The value of digits that follow the number `n`. -/
def digitsAfter (n : Nat) : List Char → Option Nat
  | [] => some n
  | c :: rest => (digitValue? c).bind fun d => digitsAfter (10 * n + d) rest

/-- The value of a numeral: one digit or more and nothing else. -/
def natural? : List Char → Option Nat
  | [] => none
  | c :: rest => digitsAfter 0 (c :: rest)

/-- The exact value of a numeral with an optional sign. -/
def integer? : List Char → Option Int
  | '+' :: rest => (natural? rest).map Int.ofNat
  | '-' :: rest => (natural? rest).map fun n => -Int.ofNat n
  | s => (natural? s).map Int.ofNat

/-- The signed 64-bit word that a numeral with an optional sign stands for. -/
def word? (s : List Char) : Option Word :=
  (integer? s).bind Word.ofInt?

/-- The number below 2^64 that a numeral with an optional plus stands for. -/
def count? (s : List Char) : Option Nat :=
  match s with
  | '+' :: rest => (natural? rest).filter (· < UInt64.size)
  | _ => (natural? s).filter (· < UInt64.size)

end TimeBuckets.Text
