/-
Filters of log messages.

* `FilterFault` — a filter that cannot be read, with the messages of its causes;
* `levelOfDirective` — the level in a text that says what is logged: a level alone, a part of
  the program, or a part with its level;
* `directiveFault?` — what is wrong with such a text;
* `filterFault?` — what is wrong with a list of such directives.

Nothing is logged here, but a program refuses to start with a filter that cannot be read.  In
brackets a directive may name a stretch of the program and its fields.
-/
import TimeBuckets.Text.Alphanumeric
import TimeBuckets.Text.Numeral

namespace TimeBuckets.CommandLine

/-- A filter that cannot be read. -/
inductive FilterFault
  | directive
  | level
  deriving DecidableEq, Repr

/-- The wording of a level that is none. -/
def levelMessage : String :=
  "error parsing level filter: expected one of \"off\", \"error\", \"warn\", \"info\", " ++
    "\"debug\", \"trace\", or a number 0-5"

/-- The messages of a filter that cannot be read, from the nearest cause on. -/
def FilterFault.causes : FilterFault → List String
  | directive => ["invalid filter directive"]
  | level => [levelMessage, levelMessage]

/-- Whether a text is a level: nothing, its name in any case, or a number up to 5. -/
def isLevel (s : List Char) : Bool :=
  match Text.count? s with
  | some n => n ≤ 5
  | none =>
    ["", "off", "error", "warn", "info", "debug", "trace"].contains
      (String.ofList (s.map Char.toLower))

/-- What is wrong with a level. -/
def levelFault? (s : List Char) : Option FilterFault := if isLevel s then none else some .level

/-- What stands behind the brackets of a directive: nothing, or its level. -/
def levelBehind : List Char → Except FilterFault (Option (List Char))
  | [] => .ok none
  | '=' :: level => .ok (some level)
  | _ => .error .directive

/-- The level of a directive, from what stands behind its opening bracket.  The fields of a
stretch are in braces, one at least. -/
def levelOfStretch (s : List Char) : Except FilterFault (Option (List Char)) :=
  match s.dropWhile fun c => c ≠ ']' && c ≠ '\x7b' with
  | ']' :: rest => levelBehind rest
  | '\x7b' :: '\x7d' :: _ => .error .directive
  | '\x7b' :: fields =>
    match fields.dropWhile (· ≠ '\x7d') with
    | '\x7d' :: ']' :: rest => levelBehind rest
    | _ => .error .directive
  | _ => .error .directive

/-- Whether a directive may start with a character that is no bracket. -/
def startsDirective (c : Char) : Bool :=
  Text.isAlphanumeric c || c = '-' || c = ':' || c = '_'

/-- The level that stands in a directive without blanks around it, with the text behind it. -/
def levelOfDirective : List Char → Except FilterFault (Option (List Char))
  | [] => .error .directive
  | '[' :: rest => levelOfStretch rest
  | c :: rest =>
    if startsDirective c then
      match rest.dropWhile fun c => c ≠ '=' && c ≠ '[' with
      | '=' :: level => .ok (some level)
      | '[' :: rest => levelOfStretch rest
      | _ => .ok none
    else .error .directive

/-- The number of bytes of a text. -/
def byteCount : List Char → Nat
  | [] => 0
  | c :: rest => c.utf8Size + byteCount rest

/-- A text without its first characters, as many as hold a number of bytes. -/
def dropBytes (count : Nat) : List Char → List Char
  | [] => []
  | c :: rest => if count = 0 then c :: rest else dropBytes (count - c.utf8Size) rest

/-- What is wrong with a directive.  The blanks around it do not count when its level is looked
for, but the level is read from there on in the text with the blanks: one in front of the
directive moves it, and one behind it belongs to it. -/
def directiveFault? (text : List Char) : Option FilterFault :=
  let bare := Text.trim text
  match levelOfDirective bare with
  | .error fault => some fault
  | .ok none => none
  | .ok (some level) => levelFault? (dropBytes (byteCount bare - byteCount level) text)

/-- What is wrong with a list of directives with commas between them, some of which may be
empty. -/
def filterFault? (text : String) : Option FilterFault :=
  ((text.splitOn ",").filter (· ≠ "")).findSome? fun part => directiveFault? part.toList

end TimeBuckets.CommandLine
