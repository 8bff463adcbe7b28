/-
JSON text.

* `Value` — a JSON value as it is written, numbers with their digits and objects with all
  their members in order;
* `Value.parse?` — the value that a text consists of, blanks around it not counting.

A text may name half of a pair of surrogates, which is no character.  Such a text is kept as
`none`: it may stand where nobody looks, but nobody can read it.
-/
import TimeBuckets.Json.Number

namespace TimeBuckets.Json

/-- A JSON value as it is written. -/
inductive Value
  | null
  | bool (value : Bool)
  | number (text : NumberText)
  | string (text : Option String)
  | array (items : List Value)
  | object (members : List (Option String × Value))

namespace Value

/-- The rest of a text from its first character that is no blank. -/
def skipBlanks (s : List Char) : List Char :=
  s.dropWhile fun c => c = ' ' || c = '\t' || c = '\n' || c = '\r'

/-- The value of a hexadecimal digit. -/
def hexValue? (c : Char) : Option Nat :=
  if c.isDigit then some (c.toNat - 48)
  else if 'a' ≤ c && c ≤ 'f' then some (c.toNat - 87)
  else if 'A' ≤ c && c ≤ 'F' then some (c.toNat - 55)
  else none

/-- The value of four hexadecimal digits. -/
def hexUnit? (a b c d : Char) : Option Nat := do
  return 4096 * (← hexValue? a) + 256 * (← hexValue? b) + 16 * (← hexValue? c) + (← hexValue? d)

/-- The character that an escape of one letter stands for. -/
def escaped? : Char → Option Char
  | '"' => some '"'
  | '\\' => some '\\'
  | '/' => some '/'
  | 'b' => some '\x08'
  | 'f' => some '\x0c'
  | 'n' => some '\n'
  | 'r' => some '\r'
  | 't' => some '\t'
  | _ => none

/-- A unit of a text: a character, or a code that a `\u` escape names. -/
inductive Piece
  | char (c : Char)
  | code (n : Nat)

/-- The pieces of a text up to its closing quote, and what follows that. -/
def pieces? : List Char → Option (List Piece × List Char)
  | [] => none
  | '"' :: rest => some ([], rest)
  | '\\' :: 'u' :: a :: b :: c :: d :: rest => do
    let n ← hexUnit? a b c d
    let (more, rest) ← pieces? rest
    return (.code n :: more, rest)
  | '\\' :: e :: rest => do
    let c ← escaped? e
    let (more, rest) ← pieces? rest
    return (.char c :: more, rest)
  | c :: rest =>
    if c.toNat < 0x20 then none
    else do
      let (more, rest) ← pieces? rest
      return (.char c :: more, rest)

/-- The characters of pieces, where two surrogates make one character and a single one is an
error. -/
def characters? : List Piece → Option (List Char)
  | [] => some []
  | .char c :: rest => (characters? rest).map (c :: ·)
  | .code high :: .code low :: rest =>
    if 0xD800 ≤ high ∧ high ≤ 0xDBFF then
      if 0xDC00 ≤ low ∧ low ≤ 0xDFFF then
        (characters? rest).map
          (Char.ofNat (0x10000 + (high - 0xD800) * 0x400 + (low - 0xDC00)) :: ·)
      else none
    else if 0xDC00 ≤ high ∧ high ≤ 0xDFFF then none
    else (characters? (.code low :: rest)).map (Char.ofNat high :: ·)
  | .code n :: rest =>
    if 0xD800 ≤ n ∧ n ≤ 0xDFFF then none else (characters? rest).map (Char.ofNat n :: ·)

/-- A text behind its opening quote, and what follows it. -/
def text? (s : List Char) : Option (Option String × List Char) := do
  let (found, rest) ← pieces? s
  return ((characters? found).map String.ofList, rest)

/-- One digit or more, and what follows them. -/
def digits? (s : List Char) : Option (List Char × List Char) :=
  match s.takeWhile Char.isDigit with
  | [] => none
  | ds => some (ds, s.dropWhile Char.isDigit)

/-- The digits before the point: no zero stands in front of another digit. -/
def wholeDigits? : List Char → Option (List Char × List Char)
  | '0' :: rest =>
    match rest with
    | [] => some (['0'], [])
    | c :: _ => if c.isDigit then none else some (['0'], rest)
  | s => digits? s

/-- The point and the digits after it, if there is a point. -/
def fraction? : List Char → Option (Option (List Char) × List Char)
  | '.' :: rest => (digits? rest).map fun (ds, rest) => (some ds, rest)
  | s => some (none, s)

/-- The sign and digits behind the letter of an exponent. -/
def exponentDigits? (s : List Char) : Option (Option (Bool × List Char) × List Char) :=
  match s with
  | '+' :: rest => (digits? rest).map fun (ds, rest) => (some (false, ds), rest)
  | '-' :: rest => (digits? rest).map fun (ds, rest) => (some (true, ds), rest)
  | _ => (digits? s).map fun (ds, rest) => (some (false, ds), rest)

/-- The exponent, if there is one. -/
def exponent? : List Char → Option (Option (Bool × List Char) × List Char)
  | 'e' :: rest => exponentDigits? rest
  | 'E' :: rest => exponentDigits? rest
  | s => some (none, s)

/-- A number, and what follows it. -/
def number? (s : List Char) : Option (NumberText × List Char) := do
  let (negative, s) := match s with
    | '-' :: rest => (true, rest)
    | _ => (false, s)
  let (whole, s) ← wholeDigits? s
  let (fraction, s) ← fraction? s
  let (exponent, s) ← exponent? s
  return (⟨negative, whole, fraction, exponent⟩, s)

mutual

/-- The value in front of a text, and what follows it.  One more than the length of the text
is enough `fuel`. -/
def value? : Nat → List Char → Option (Value × List Char)
  | 0, _ => none
  | fuel + 1, s =>
    match skipBlanks s with
    | 'n' :: 'u' :: 'l' :: 'l' :: rest => some (.null, rest)
    | 't' :: 'r' :: 'u' :: 'e' :: rest => some (.bool true, rest)
    | 'f' :: 'a' :: 'l' :: 's' :: 'e' :: rest => some (.bool false, rest)
    | '"' :: rest => (text? rest).map fun (text, rest) => (.string text, rest)
    | '[' :: rest =>
      match skipBlanks rest with
      | ']' :: rest => some (.array [], rest)
      | rest => (items? fuel rest).map fun (items, rest) => (.array items, rest)
    | '\x7b' :: rest =>
      match skipBlanks rest with
      | '\x7d' :: rest => some (.object [], rest)
      | rest => (members? fuel rest).map fun (members, rest) => (.object members, rest)
    | s => (number? s).map fun (text, rest) => (.number text, rest)

/-- The items of an array behind its bracket, one at least, and what follows the array. -/
def items? : Nat → List Char → Option (List Value × List Char)
  | 0, _ => none
  | fuel + 1, s => do
    let (item, rest) ← value? fuel s
    match skipBlanks rest with
    | ']' :: rest => return ([item], rest)
    | ',' :: rest =>
      let (items, rest) ← items? fuel rest
      return (item :: items, rest)
    | _ => none

/-- The members of an object behind its brace, one at least, and what follows the object. -/
def members? : Nat → List Char → Option (List (Option String × Value) × List Char)
  | 0, _ => none
  | fuel + 1, s =>
    match skipBlanks s with
    | '"' :: rest => do
      let (key, rest) ← text? rest
      match skipBlanks rest with
      | ':' :: rest =>
        let (value, rest) ← value? fuel rest
        match skipBlanks rest with
        | '\x7d' :: rest => return ([(key, value)], rest)
        | ',' :: rest =>
          let (members, rest) ← members? fuel rest
          return ((key, value) :: members, rest)
        | _ => none
      | _ => none
    | _ => none

end

/-- The value that a text consists of. -/
def parse? (text : String) : Option Value := do
  let s := text.toList
  let (value, rest) ← value? (s.length + 1) s
  if (skipBlanks rest).isEmpty then return value else none

end Value

end TimeBuckets.Json
