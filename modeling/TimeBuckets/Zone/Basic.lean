/-
Time zones.

* `LocalKind` — what clocks show for a while: an offset from UTC and its abbreviation;
* `Zone` — the kinds that follow one another, with the instants of change, in order of time;
* `Zone.kindAt` — the kind at an instant;
* `Zone.earliest?` — the first instant at which clocks show a local time, if there is one;
* `Zone.localDate?`, `Zone.localMidnight?` — the date of an instant, and the instant at which
  a date starts.

Instants and local times are whole seconds, counted from 1970-01-01 00:00.
-/
import TimeBuckets.Calendar.Date
import TimeBuckets.Word

namespace TimeBuckets

/-- What clocks of a zone show for a while. -/
structure LocalKind where
  /-- The seconds by which clocks are ahead of UTC. -/
  offset : Int
  abbreviation : String
  deriving DecidableEq, Repr

/-- A change of clocks: the kind holds from the instant on. -/
structure ClockChange where
  second : Int
  kind : LocalKind
  deriving DecidableEq, Repr

/-- Whether changes come in order of time. -/
def ClockChange.inOrder : List ClockChange → Bool
  | [] => true
  | [_] => true
  | c :: d :: rest => decide (c.second ≤ d.second) && inOrder (d :: rest)

/-- A time zone. -/
structure Zone where
  name : String
  /-- The standard offset at the start of 1970, in seconds. -/
  standard : Int
  /-- The kind before all changes. -/
  first : LocalKind
  changes : List ClockChange
  inOrder : ClockChange.inOrder changes = true
  deriving DecidableEq, Repr

namespace Zone

/-- The kind at an instant, from a kind and the changes that follow it. -/
def kindAfter (kind : LocalKind) : List ClockChange → Int → LocalKind
  | [], _ => kind
  | c :: rest, s => if s < c.second then kind else kindAfter c.kind rest s

/-- The kind at an instant. -/
def kindAt (z : Zone) (s : Int) : LocalKind := kindAfter z.first z.changes s

/-- The first instant that is `start` or later and has the local time `l`. -/
def earliestAfter (start : Option Int) (kind : LocalKind) :
    List ClockChange → Int → Option Int
  | changes, l =>
    let instant := l - kind.offset
    let begun := match start with
      | some s => decide (s ≤ instant)
      | none => true
    match changes with
    | [] => if begun then some instant else none
    | c :: rest =>
      if begun && instant < c.second then some instant
      else earliestAfter (some c.second) c.kind rest l

/-- The first instant at which clocks show a local time.  There is none when clocks were put
forward over it. -/
def earliest? (z : Zone) (l : Int) : Option Int := earliestAfter none z.first z.changes l

/-- The standard offset at the start of 1970, in milliseconds. -/
def standardMillis (z : Zone) : Word := Int64.ofInt (1000 * z.standard)

/-- Whether an instant falls on a date of the calendar in UTC. -/
def isDated (s : Int) : Bool := (Date.ofDays? (s / 86400)).isSome

/-- The local date of a time, if the calendar holds it and the date in UTC. -/
def localDate? (z : Zone) (time : Word) : Option Date :=
  let s := time.toInt / 1000
  if isDated s then Date.ofDays? ((s + (z.kindAt s).offset) / 86400) else none

/-- The instant of a local hour on a date. -/
def instantOf? (z : Zone) (d : Date) (hour : Int) : Option Word :=
  match z.earliest? (86400 * d.toDays + 3600 * hour) with
  | some s => if isDated s then Word.ofInt? (1000 * s) else none
  | none => none

/-- The time at which a date starts: the first of its hours from midnight to three o'clock
that clocks show at all, and of two such instants the earlier one. -/
def localMidnight? (z : Zone) (d : Date) : Option Word :=
  [0, 1, 2, 3].findSome? (z.instantOf? d)

end Zone

end TimeBuckets
