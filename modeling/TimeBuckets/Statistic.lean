/-
Statistics over the values of a bucket.

* `Statistic` — sum, mean, least, greatest, first, last and count;
* `Statistic.ofValues?` — the statistic of a list of values, `none` for the empty list;
* `Statistic.parse` — the statistic with a given name.

Values are added in the order in which they come, starting from the first one.
-/
import TimeBuckets.Fault
import TimeBuckets.Text.Lowercase

namespace TimeBuckets

/-- A value that sums up a bucket. -/
inductive Statistic
  | sum
  | mean
  | least
  | greatest
  | first
  | last
  | count
  deriving DecidableEq, Repr

namespace Statistic

/-- All statistics, in the order in which they are listed to the user. -/
def all : List Statistic := [sum, mean, least, greatest, first, last, count]

/-- The name of a statistic. -/
def name : Statistic → String
  | sum => "sum"
  | mean => "avg"
  | least => "min"
  | greatest => "max"
  | first => "first"
  | last => "last"
  | count => "count"

/-- Whether a value has a minus sign, which zero may have too. -/
def isSigned (v : Float) : Bool := 0x8000000000000000 ≤ v.toBits

/-- The lesser of two values.  If one of them is no number it is the other, and zero with a
minus sign is less than zero without. -/
def lesser (a b : Float) : Float :=
  if a.isNaN then b else if b < a || (b == a && isSigned b) then b else a

/-- The greater of two values.  If one of them is no number it is the other, and zero with a
minus sign is less than zero without. -/
def greater (a b : Float) : Float :=
  if a.isNaN then b else if a < b || (b == a && isSigned a) then b else a

/-- The statistic of one value or more. -/
def ofNonempty (s : Statistic) (v : Float) (rest : List Float) : Float :=
  match s with
  | sum => rest.foldl (· + ·) v
  | mean => rest.foldl (· + ·) v / Float.ofNat (rest.length + 1)
  | least => rest.foldl lesser v
  | greatest => rest.foldl greater v
  | first => v
  | last => rest.getLastD v
  | count => rest.foldl (fun n _ => n + 1) 1

/-- The statistic of a list of values, if there is one value at least. -/
def ofValues? (s : Statistic) : List Float → Option Float
  | [] => none
  | v :: rest => some (s.ofNonempty v rest)

/-- The statistic that a name in small letters stands for. -/
def ofName? : String → Option Statistic
  | "sum" => some sum
  | "avg" => some mean
  | "average" => some mean
  | "mean" => some mean
  | "min" => some least
  | "max" => some greatest
  | "first" => some first
  | "last" => some last
  | "count" => some count
  | _ => none

/-- The statistic that a text names, in any case and with blanks around it. -/
def parse (text : String) : Except SettingFault Statistic :=
  let small := String.ofList (Text.lower (Text.trim text.toList))
  match ofName? small with
  | some s => .ok s
  | none => .error (.unknownStatistic small (all.map name))

end Statistic

end TimeBuckets
