/-
Settings from documents.

* `Settings.ofValue?` — the settings in the table of a document;
* `Settings.ofDocument?` — the settings in the text of a document.

Everything may be left out, and entries with other names do not count.  A section may also be
an array of its settings in their order.  A setting of the wrong type spoils the document.
-/
import TimeBuckets.Settings.Basic
import TimeBuckets.Toml.Document

namespace TimeBuckets

open Toml (Value)

namespace Settings

/-- The values of a section under some names, if they are given.  An array gives them in
order and needs `needed` items.  A moment counts as a section without any of the names. -/
def fields? (names : List String) (needed : Nat) : Value → Option (List (Option Value))
  | .table _ entries => some (names.map fun name => entries.lookup name)
  | .moment => some (names.map fun _ => none)
  | .array items => inOrder items
  | .tables items => inOrder items
  | _ => none
where
  /-- The values at the places of the names. -/
  inOrder (items : List Value) : Option (List (Option Value)) :=
    if items.length < needed then none else some (names.mapIdx fun i _ => items[i]?)

/-- A text, or the default if it is left out. -/
def text? (default : String) : Option Value → Option String
  | none => some default
  | some (.string s) => some s
  | _ => none

/-- A text that may be left out. -/
def optionalText? : Option Value → Option (Option String)
  | none => some none
  | some (.string s) => some (some s)
  | _ => none

/-- A truth value, or the default if it is left out. -/
def flag? (default : Bool) : Option Value → Option Bool
  | none => some default
  | some (.bool b) => some b
  | _ => none

/-- The number of a column, or the default if it is left out. -/
def column? (default : Nat) : Option Value → Option Nat
  | none => some default
  | some (.integer n) => if 0 ≤ n then some n.toNat else none
  | _ => none

/-- The section about buckets. -/
def buckets? (v : Value) : Option BucketSettings := do
  let base : BucketSettings := {}
  match ← fields? ["interval", "aggregator", "timezone", "rate"] 4 v with
  | [interval, statistic, zone, rate] =>
    return ⟨← text? base.interval interval, ← text? base.statistic statistic,
      ← text? base.zone zone, ← optionalText? rate⟩
  | _ => none

/-- The section about tables of samples. -/
def layout? (v : Value) : Option Table.Layout := do
  let base : Table.Layout := {}
  let names := ["timestamp_column", "value_column", "has_header", "timestamp_format",
    "skip_invalid"]
  match ← fields? names 4 v with
  | [time, value, header, timePattern, skip] =>
    return { timeColumn := ← column? base.timeColumn time
             valueColumn := ← column? base.valueColumn value
             timePattern := ← optionalText? timePattern
             header := ← flag? base.header header
             skipInvalid := ← flag? base.skipInvalid skip }
  | _ => none

/-- The section about logging. -/
def log? (v : Value) : Option LogSettings := do
  let base : LogSettings := {}
  match ← fields? ["level", "format"] 0 v with
  | [level, format] => return ⟨← text? base.level level, ← text? base.format format⟩
  | _ => none

/-- A section, or its default if it is left out. -/
def section? {α : Type} (default : α) (read : Value → Option α) : Option Value → Option α
  | none => some default
  | some v => read v

/-- The settings in the table of a document. -/
def ofValue? (v : Value) : Option Settings := do
  return { buckets := ← section? {} buckets? (v.lookup? "downsample")
           input := ← section? {} layout? (v.lookup? "input")
           log := ← section? {} log? (v.lookup? "logging") }

/-- The settings in the text of a document. -/
def ofDocument? (text : String) : Option Settings := do ofValue? (← Toml.parse? text)

end Settings

end TimeBuckets
