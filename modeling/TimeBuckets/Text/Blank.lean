/-
White space: the characters with the Unicode property White_Space, and the
removal of them from both ends of a text.

* `isBlank` — the property, as closed ranges of code points;
* `trim` — a text without the blanks at its ends.
-/

namespace TimeBuckets.Text

/-- The code points of white space, as closed ranges in ascending order. -/
def blankRanges : List (Nat × Nat) :=
  [(0x09, 0x0D), (0x20, 0x20), (0x85, 0x85), (0xA0, 0xA0), (0x1680, 0x1680), (0x2000, 0x200A),
   (0x2028, 0x2029), (0x202F, 0x202F), (0x205F, 0x205F), (0x3000, 0x3000)]

/-- Whether one of the closed ranges holds the code point. -/
def inRanges (ranges : List (Nat × Nat)) (code : Nat) : Bool :=
  ranges.any fun r => r.1 ≤ code && code ≤ r.2

/-- White space.  The zero-width space U+200B is none. -/
def isBlank (c : Char) : Bool := inRanges blankRanges c.toNat

/-- A text without the blanks in front of it. -/
def trimStart (s : List Char) : List Char := s.dropWhile isBlank

/-- A text without the blanks behind it. -/
def trimEnd (s : List Char) : List Char := (s.reverse.dropWhile isBlank).reverse

/-- A text without the blanks at its ends. -/
def trim (s : List Char) : List Char := trimEnd (trimStart s)

end TimeBuckets.Text
