/-
Text in double quotes, as paths are shown in messages.

* `quotedChar` — a character, or the escape that stands for it;
* `quotedPath` — a text between quotes.

Double quotes and backslashes have a backslash in front, and hidden characters are written
with their code.  Single quotes stand as they are.
-/
import TimeBuckets.Text.Blank
import TimeBuckets.Text.Hidden

namespace TimeBuckets.Text

/-- A number in hexadecimal digits. -/
def hex (n : Nat) : String := String.ofList (Nat.toDigits 16 n)

/-- Whether a character is shown by its code. -/
def isHidden (c : Char) : Bool :=
  c.toNat < 0x20 || c.toNat = 0x7F || inRanges hiddenRanges c.toNat

/-- A character in a quoted text. -/
def quotedChar (c : Char) : String :=
  match c with
  | '\x00' => "\\0"
  | '\t' => "\\t"
  | '\n' => "\\n"
  | '\r' => "\\r"
  | '"' => "\\\""
  | '\\' => "\\\\"
  | _ => if isHidden c then "\\u\x7b" ++ hex c.toNat ++ "\x7d" else String.singleton c

/-- A text in double quotes. -/
def quotedPath (path : String) : String :=
  "\"" ++ String.join (path.toList.map quotedChar) ++ "\""

end TimeBuckets.Text
