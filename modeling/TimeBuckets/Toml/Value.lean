/-
TOML values.

* `Value` — a value, where a table knows how it came about;
* `Value.extend?` — a table with one more value at the end of a path of keys;
* `Value.lookup?` — the value under a key of a table.

A table that a header or braces have written down is closed: dotted keys cannot add to it.
Tables that only lie on the way to others stay open.
-/

namespace TimeBuckets.Toml

/-- How a table came about. -/
inductive Origin
  /-- By braces. -/
  | inline
  /-- By a header of its own. -/
  | header
  /-- By lying on the way of another header. -/
  | implied
  /-- By dotted keys. -/
  | dotted
  deriving DecidableEq, Repr

/-- A value. -/
inductive Value
  | string (text : String)
  | integer (n : Int)
  | real
  | bool (b : Bool)
  | moment
  | array (items : List Value)
  /-- Tables with one header each. -/
  | tables (items : List Value)
  | table (origin : Origin) (entries : List (String × Value))

namespace Value

/-- The empty document. -/
def empty : Value := .table .header []

/-- The entries of a table with the value of a key set: in its place, or at the end. -/
def put (key : String) (value : Value) : List (String × Value) → List (String × Value)
  | [] => [(key, value)]
  | entry :: rest =>
    if entry.1 = key then (key, value) :: rest else entry :: put key value rest

/-- A list with its last item changed. -/
def changeLast? (change : Value → Option Value) : List Value → Option (List Value)
  | [] => none
  | [v] => (change v).map fun v => [v]
  | v :: w :: rest => (changeLast? change (w :: rest)).map (v :: ·)

/-- Changes the table at the end of a path.  Missing tables on the way are made with the origin
`way`, and of an array of tables the last one is entered.  Dotted keys do not pass through a
table that has a header. -/
def changeAt? (way : Origin) (change : Value → Option Value) : List String → Value → Option Value
  | [], t => change t
  | key :: path, .table origin entries => do
    let child ← match entries.lookup key with
      | none => changeAt? way change path (.table way [])
      | some (.table .inline _) => none
      | some (.table .header inner) =>
        if way = .dotted then none else changeAt? way change path (.table .header inner)
      | some (.table origin inner) => changeAt? way change path (.table origin inner)
      | some (.tables items) =>
        (changeLast? (changeAt? way change path) items).map .tables
      | some _ => none
    return .table origin (put key child entries)
  | _ :: _, _ => none

/-- A table with a new entry, which it must not have yet.  An entry behind dotted keys needs a
table that dotted keys have made. -/
def withKey? (behindDots : Bool) (key : String) (value : Value) : Value → Option Value
  | .table origin entries =>
    if (origin == .dotted) != behindDots then none
    else if (entries.lookup key).isSome then none
    else some (.table origin (entries ++ [(key, value)]))
  | _ => none

/-- A table with a value at the end of a path of dotted keys. -/
def extend? (t : Value) (keys : List String) (value : Value) : Option Value :=
  match keys.reverse with
  | [] => none
  | key :: way =>
    changeAt? .dotted (withKey? (!way.isEmpty) key value) way.reverse t

/-- A table with a table under a header of its own.  A table that was only implied is written
down now, and any other value is in the way. -/
def openTable? (keys : List String) (t : Value) : Option Value :=
  match keys.reverse with
  | [] => none
  | key :: way =>
    let change : Value → Option Value
      | .table origin entries =>
        match entries.lookup key with
        | none => some (.table origin (entries ++ [(key, .table .header [])]))
        | some (.table .implied inner) =>
          some (.table origin (put key (.table .header inner) entries))
        | some _ => none
      | _ => none
    changeAt? .implied change way.reverse t

/-- A table with one more table in an array of tables. -/
def pushTable? (keys : List String) (t : Value) : Option Value :=
  match keys.reverse with
  | [] => none
  | key :: way =>
    let change : Value → Option Value
      | .table origin entries =>
        match entries.lookup key with
        | none => some (.table origin (entries ++ [(key, .tables [.table .header []])]))
        | some (.tables items) =>
          some (.table origin (put key (.tables (items ++ [.table .header []])) entries))
        | some _ => none
      | _ => none
    changeAt? .implied change way.reverse t

/-- The value under a key of a table. -/
def lookup? (key : String) : Value → Option Value
  | .table _ entries => entries.lookup key
  | _ => none

end Value

end TimeBuckets.Toml
