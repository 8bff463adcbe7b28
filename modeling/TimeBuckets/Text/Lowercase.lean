/-
Small letters.

* `lowerChar` — the small form of one character: one character, or two for `İ`;
* `lower` — the small form of a text, where a sigma that ends a word is `ς`.

A sigma ends a word when the nearest character before it is a cased letter and the nearest
one behind it is not, marks being passed over.
-/
import TimeBuckets.Text.Blank
import TimeBuckets.Text.LetterCase

namespace TimeBuckets.Text

/-- The code point of the small letter, found in the first run that holds the capital. -/
def lowerCode (code : Nat) : Nat :=
  match lowerRuns.find? fun r => r.1 ≤ code && code ≤ r.2.1 && (code - r.1) % r.2.2.1 = 0 with
  | some r => (code + r.2.2.2).toNat
  | none => code

/-- The small form of a character that stands alone.  A capital dotted I keeps its dot as a
mark of its own. -/
def lowerChar (c : Char) : List Char :=
  if c = 'İ' then ['i', '\u0307'] else [Char.ofNat (lowerCode c.toNat)]

/-- Whether a cased letter comes next, after marks that are passed over. -/
def casedNext (s : List Char) : Bool :=
  match s.dropWhile fun c => inRanges ignorableRanges c.toNat with
  | [] => false
  | c :: _ => inRanges casedRanges c.toNat

/-- The small form of a text that follows the characters `before`, the nearest one first. -/
def lowerAfter (before : List Char) : List Char → List Char
  | [] => []
  | c :: rest =>
    let small :=
      if c = 'Σ' then
        if casedNext before && !casedNext rest then ['ς'] else ['σ']
      else lowerChar c
    small ++ lowerAfter (c :: before) rest

/-- The small form of a text. -/
def lower (s : List Char) : List Char := lowerAfter [] s

end TimeBuckets.Text
