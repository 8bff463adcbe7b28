/-
TOML documents.

* `value?` — a value, and what follows it;
* `Statement` — a line of a document: a header of a table or an entry;
* `parse?` — the table that a whole document stands for.

Arrays may go over several lines and hold comments; tables in braces stand on one line.
Nesting is limited to 79 levels.
-/
import TimeBuckets.Toml.Scalars
import TimeBuckets.Toml.Value

namespace TimeBuckets.Toml

/-- The rest of a text behind a comment, if there is one. -/
def skipComment : List Char → List Char
  | '#' :: rest => rest.dropWhile isPlain
  | s => s

/-- The rest of a text behind blanks, line ends and comments. -/
def skipFiller : Nat → List Char → List Char
  | 0, s => s
  | fuel + 1, s =>
    match skipLines s with
    | '#' :: rest => skipFiller fuel (rest.dropWhile isPlain)
    | rest => rest

/-- The rest of a text behind blanks, line ends and comments. -/
def skipFillers (s : List Char) : List Char := skipFiller (s.length + 1) s

/-- A number or a moment, and what follows it. -/
def scalar (s : List Char) : Option (Value × List Char) :=
  match moment? s with
  | some rest => some (.moment, rest)
  | none =>
    match float? s with
    | some rest => some (.real, rest)
    | none => (integer? s).map fun (n, rest) => (.integer n, rest)

mutual

/-- A value within `depth` further levels, and what follows it.  Twice the length of the text
is enough `fuel`. -/
def value? (depth : Nat) : Nat → List Char → Option (Value × List Char)
  | 0, _ => none
  | fuel + 1, s =>
    match s with
    | '"' :: _ => (string? s).map fun (text, rest) => (.string text, rest)
    | '\'' :: _ => (string? s).map fun (text, rest) => (.string text, rest)
    | 't' :: 'r' :: 'u' :: 'e' :: rest => some (.bool true, rest)
    | 'f' :: 'a' :: 'l' :: 's' :: 'e' :: rest => some (.bool false, rest)
    | '[' :: rest =>
      if depth = 0 then none
      else
        match skipFillers rest with
        | ']' :: rest => some (.array [], rest)
        | rest =>
          (items? (depth - 1) fuel rest).map fun (items, rest) => (.array items, rest)
    | '\x7b' :: rest =>
      if depth = 0 then none
      else
        match skipGap rest with
        | '\x7d' :: rest => some (.table .inline [], rest)
        | rest => entries? (depth - 1) fuel (.table .inline []) rest
    | _ => scalar s

/-- The items of an array from the first character of one of them, and what follows the
array. -/
def items? (depth : Nat) : Nat → List Char → Option (List Value × List Char)
  | 0, _ => none
  | fuel + 1, s => do
    let (item, rest) ← value? depth fuel s
    match skipFillers rest with
    | ']' :: rest => return ([item], rest)
    | ',' :: rest =>
      match skipFillers rest with
      | ']' :: rest => return ([item], rest)
      | rest =>
        let (items, rest) ← items? depth fuel rest
        return (item :: items, rest)
    | _ => none

/-- A table in braces from one of its entries on, with the entries before it, and what follows
the table. -/
def entries? (depth : Nat) : Nat → Value → List Char → Option (Value × List Char)
  | 0, _, _ => none
  | fuel + 1, t, s => do
    let (keys, rest) ← keys? s
    let rest ← after? '=' rest
    let (value, rest) ← value? depth fuel (skipGap rest)
    let t ← t.extend? keys value
    match skipGap rest with
    | '\x7d' :: rest => return (t, rest)
    | ',' :: rest => entries? depth fuel t rest
    | _ => none

end

/-- A line of a document. -/
inductive Statement
  | header (keys : List String)
  | itemHeader (keys : List String)
  | entry (keys : List String) (value : Value)

/-- What follows blanks, a comment and the line end behind a statement. -/
def finishLine? (s : List Char) : Option (List Char) :=
  match skipComment (skipGap s) with
  | [] => some []
  | rest => lineEnd? rest

/-- A statement, and what follows its line. -/
def statement? (s : List Char) : Option (Statement × List Char) := do
  let (found, rest) ← match s with
    | '[' :: '[' :: rest => do
      let (keys, rest) ← keys? rest
      let rest ← after? ']' (← after? ']' rest)
      some (Statement.itemHeader keys, rest)
    | '[' :: rest => do
      let (keys, rest) ← keys? rest
      let rest ← after? ']' rest
      some (Statement.header keys, rest)
    | _ => do
      let (keys, rest) ← keys? s
      let rest ← after? '=' rest
      let (value, rest) ← value? 79 (2 * s.length + 1) (skipGap rest)
      some (Statement.entry keys value, rest)
  return (found, ← finishLine? rest)

/-- The statements of a text.  One more than its length is enough `fuel`. -/
def statements? : Nat → List Char → Option (List Statement)
  | 0, _ => none
  | fuel + 1, s =>
    match skipGap s with
    | [] => some []
    | c :: rest =>
      if c = '\n' ∨ c = '\r' ∨ c = '#' then do
        statements? fuel (← finishLine? (c :: rest))
      else do
        let (found, rest) ← statement? (c :: rest)
        let more ← statements? fuel rest
        return found :: more

/-- The table that statements stand for, from the table and the open header before them. -/
def build? : List Statement → List String → Value → Option Value
  | [], _, t => some t
  | .header keys :: rest, _, t => do build? rest keys (← t.openTable? keys)
  | .itemHeader keys :: rest, _, t => do build? rest keys (← t.pushTable? keys)
  | .entry keys value :: rest, current, t => do
    build? rest current (← t.changeAt? .implied (fun t => t.extend? keys value) current)

/-- The table that a document stands for.  A mark of byte order in front does not count. -/
def parse? (text : String) : Option Value := do
  let s := match text.toList with
    | '\uFEFF' :: rest => rest
    | s => s
  build? (← statements? (s.length + 1) s) [] Value.empty

end TimeBuckets.Toml
