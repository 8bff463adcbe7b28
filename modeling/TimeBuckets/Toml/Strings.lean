/-
Strings and keys of TOML.

* `string?` — a string in any of its four forms, and what follows it;
* `keys?` — keys with dots between them, and what follows them.

Double quotes know escapes and single quotes do not.  Three quotes hold several lines, where
a line end right behind the quotes does not count and up to two quotes may stand before the
closing ones.
-/
import TimeBuckets.Json.Value

namespace TimeBuckets.Toml

/-- Whether a character is a blank within a line. -/
def isGap (c : Char) : Bool := c = ' ' || c = '\t'

/-- The rest of a text behind blanks within a line. -/
def skipGap (s : List Char) : List Char := s.dropWhile isGap

/-- Whether a character may stand in strings and comments: no control character but a tab. -/
def isPlain (c : Char) : Bool := c = '\t' || (0x20 ≤ c.toNat && c.toNat ≠ 0x7F)

/-- The rest of a text behind one line end. -/
def lineEnd? : List Char → Option (List Char)
  | '\n' :: rest => some rest
  | '\r' :: '\n' :: rest => some rest
  | _ => none

/-- The rest of a text behind blanks and line ends. -/
def skipLines : List Char → List Char
  | '\r' :: '\n' :: rest => skipLines rest
  | c :: rest => if isGap c || c = '\n' then skipLines rest else c :: rest
  | [] => []

/-- The character with a code. -/
def scalar? (n : Nat) : Option Char :=
  if n < 0xD800 ∨ (0xDFFF < n ∧ n < 0x110000) then some (Char.ofNat n) else none

/-- The character behind a backslash, and what follows it. -/
def escape? : List Char → Option (Char × List Char)
  | 'b' :: rest => some ('\x08', rest)
  | 'f' :: rest => some ('\x0c', rest)
  | 'n' :: rest => some ('\n', rest)
  | 'r' :: rest => some ('\r', rest)
  | 't' :: rest => some ('\t', rest)
  | '"' :: rest => some ('"', rest)
  | '\\' :: rest => some ('\\', rest)
  | 'u' :: a :: b :: c :: d :: rest => do
    return (← scalar? (← Json.Value.hexUnit? a b c d), rest)
  | 'U' :: a :: b :: c :: d :: e :: f :: g :: h :: rest => do
    let high ← Json.Value.hexUnit? a b c d
    let low ← Json.Value.hexUnit? e f g h
    return (← scalar? (0x10000 * high + low), rest)
  | _ => none

/-- A string in double quotes on one line, behind its opening quote.  The length of the text
is enough `fuel`. -/
def basic? : Nat → List Char → Option (List Char × List Char)
  | 0, _ => none
  | fuel + 1, s =>
    match s with
    | [] => none
    | '"' :: rest => some ([], rest)
    | '\\' :: rest => do
      let (c, rest) ← escape? rest
      let (cs, rest) ← basic? fuel rest
      return (c :: cs, rest)
    | c :: rest =>
      if isPlain c then (basic? fuel rest).map fun (cs, rest) => (c :: cs, rest) else none

/-- A string in single quotes on one line, behind its opening quote. -/
def literal? (s : List Char) : Option (List Char × List Char) :=
  let content := s.takeWhile fun c => isPlain c && c ≠ '\''
  match s.drop content.length with
  | '\'' :: rest => some (content, rest)
  | _ => none

/-- Quotes within a string of several lines: those that belong to it, and whether it ends with
them. -/
def quotes? (q : Char) (s : List Char) : Option (List Char × Bool × List Char) :=
  let run := s.takeWhile (· = q)
  let rest := s.drop run.length
  if run.length < 3 then some (run, false, rest)
  else if run.length ≤ 5 then some (run.drop 3, true, rest)
  else none

/-- The rest of a text behind a line end and the blanks and line ends that follow it, where a
backslash with blanks stands at the end of a line. -/
def continuation? (s : List Char) : Option (List Char) :=
  (lineEnd? (skipGap s)).map skipLines

/-- A string in three quotes `q`, behind the opening ones and a line end. -/
def lines? (q : Char) (escapes : Bool) : Nat → List Char → Option (List Char × List Char)
  | 0, _ => none
  | fuel + 1, s =>
    match s with
    | [] => none
    | '\r' :: '\n' :: rest =>
      (lines? q escapes fuel rest).map fun (cs, rest) => ('\n' :: cs, rest)
    | '\n' :: rest => (lines? q escapes fuel rest).map fun (cs, rest) => ('\n' :: cs, rest)
    | c :: rest =>
      if c = q then do
        let (own, closed, rest) ← quotes? q s
        if closed then return (own, rest)
        else
          let (cs, rest) ← lines? q escapes fuel rest
          return (own ++ cs, rest)
      else if c = '\\' ∧ escapes then
        match continuation? rest with
        | some rest => lines? q escapes fuel rest
        | none => do
          let (c, rest) ← escape? rest
          let (cs, rest) ← lines? q escapes fuel rest
          return (c :: cs, rest)
      else if isPlain c then
        (lines? q escapes fuel rest).map fun (cs, rest) => (c :: cs, rest)
      else none

/-- The rest of a text behind one line end, if there is one. -/
def skipLineEnd (s : List Char) : List Char := (lineEnd? s).getD s

/-- A string, and what follows it. -/
def string? (s : List Char) : Option (String × List Char) :=
  let found : Option (List Char × List Char) :=
    match s with
    | '"' :: '"' :: '"' :: rest => lines? '"' true (s.length + 1) (skipLineEnd rest)
    | '\'' :: '\'' :: '\'' :: rest => lines? '\'' false (s.length + 1) (skipLineEnd rest)
    | '"' :: rest => basic? (s.length + 1) rest
    | '\'' :: rest => literal? rest
    | _ => none
  found.map fun (cs, rest) => (String.ofList cs, rest)

/-- Whether a character may stand in a key without quotes. -/
def isKeyChar (c : Char) : Bool := c.isAlphanum || c = '-' || c = '_'

/-- One key, and what follows it. -/
def key? (s : List Char) : Option (String × List Char) :=
  match s with
  | '"' :: rest => (basic? (s.length + 1) rest).map fun (cs, rest) => (String.ofList cs, rest)
  | '\'' :: rest => (literal? rest).map fun (cs, rest) => (String.ofList cs, rest)
  | _ =>
    match s.takeWhile isKeyChar with
    | [] => none
    | cs => some (String.ofList cs, s.dropWhile isKeyChar)

/-- Keys with dots between them and blanks around them, and what follows them. -/
def keysUpTo? : Nat → List Char → Option (List String × List Char)
  | 0, _ => none
  | fuel + 1, s => do
    let (key, rest) ← key? (skipGap s)
    match skipGap rest with
    | '.' :: rest =>
      let (keys, rest) ← keysUpTo? fuel rest
      return (key :: keys, rest)
    | rest => return ([key], rest)

/-- Up to 79 keys with dots between them, and what follows them. -/
def keys? (s : List Char) : Option (List String × List Char) := keysUpTo? 79 s

end TimeBuckets.Toml
