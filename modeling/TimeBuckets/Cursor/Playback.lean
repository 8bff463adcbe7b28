/-
A bucket whose values are known beforehand.

* `Playback` — a list of values, one of which may be impossible to read;
* `Playback.used` — the number of values that were taken.
-/
import TimeBuckets.Cursor.Basic

namespace TimeBuckets

/-- The values of one bucket. -/
structure Playback where
  /-- The values that are left. -/
  values : List Float
  /-- The number of values that were taken. -/
  used : Nat
  /-- The number of values before the one that cannot be read. -/
  failing : Option Nat

namespace Playback

/-- Whether a value is left. -/
def hasValue : EStateM Fault Playback Bool := do
  return !(← get).values.isEmpty

/-- The next value.  A value that cannot be read stays where it is. -/
def nextValue : EStateM Fault Playback Float := do
  let p ← get
  if p.failing = some p.used then
    throw (.source .exhausted)
  else
    match p.values with
    | [] => throw (.noValue "Playback")
    | value :: rest =>
      set { p with values := rest, used := p.used + 1 }
      return value

instance : ValueStream Playback where
  hasValue := hasValue
  nextValue := nextValue
  pending p := p.values.length

end Playback

end TimeBuckets
