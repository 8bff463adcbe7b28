/-
Counter readings.

* `CounterKind` — how the difference of two readings is taken;
* `Counter` — a kind with the value at which a counter rolls over and the rate above which a
  step counts as a restart;
* `Counter.amount` — the amount counted between two samples, whatever the time between them;
* `Counter.delta` — that amount, or a fault if no word holds a time that the counter asks for;
* `RateOptions` — the choice between plain values and a counter, written `kind,max,reset`.

Whole readings are subtracted as words and wrap around, and only the result becomes a double.
Times do not wrap around: a counter that only goes up fails on two samples that are further apart
than a word can say, even if it is never restarted.
-/
import TimeBuckets.Fault
import TimeBuckets.Text.Blank
import TimeBuckets.Text.Numeral

namespace TimeBuckets

/-- How the difference of two readings of a counter is taken. -/
inductive CounterKind
  /-- The counter only goes up, and a step down means that it rolled over. -/
  | monotonic
  /-- Steps up count, steps down are nothing. -/
  | rising
  /-- Steps down count, as positive amounts, and steps up are nothing. -/
  | falling
  deriving DecidableEq, Repr

namespace CounterKind

/-- The token of a kind in rate options. -/
def token : CounterKind → String
  | monotonic => "counter"
  | rising => "bi-inc-counter"
  | falling => "bi-dec-counter"

/-- The name of a kind in stored options. -/
def name : CounterKind → String
  | monotonic => "monotonic"
  | rising => "bi-inc"
  | falling => "bi-dec"

/-- The kind with a given token, blanks around it not counting. -/
def ofToken? (text : String) : Option CounterKind :=
  match String.ofList (Text.trim text.toList) with
  | "counter" => some monotonic
  | "mono-inc-counter" => some monotonic
  | "bi-inc-counter" => some rising
  | "bi-dec-counter" => some falling
  | _ => none

end CounterKind

/-- A counter: `max` is the value at which it rolls over, and a rate per second above `reset`
means that it was restarted, unless `reset` is zero or less. -/
structure Counter where
  kind : CounterKind
  max : Word
  reset : Word
  deriving DecidableEq, Repr

namespace Counter

/-- The difference of two readings. -/
def difference : Reading → Reading → Float
  | .whole a, .whole b => (b - a).toReal
  | a, b => b.toReal - a.toReal

/-- The exact word that a counter with this greatest value moved by, from `a` to `b`. -/
def stepWord (max a b : Word) : Word :=
  if b - a < 0 then max - a + b else b - a

/-- The amount by which a counter that only goes up moved, a step down being a roll over. -/
def step (max : Word) : Reading → Reading → Float
  | .whole a, .whole b => (stepWord max a b).toReal
  | a, b =>
    let delta := b.toReal - a.toReal
    if delta < 0 then max.toReal - a.toReal + b.toReal else delta

/-- Whether an amount within some milliseconds is too much for a running counter. -/
def isRestart (c : Counter) (amount : Float) (elapsed : Int) : Bool :=
  c.reset > 0 && amount * 1000 / Float.ofInt elapsed > c.reset.toReal

/-- The amount counted between two samples, whatever the time between them. -/
def amount (c : Counter) (previous next : Sample) : Float :=
  match c.kind with
  | .monotonic =>
    let amount := step c.max previous.reading next.reading
    if c.isRestart amount (next.since previous) then 0 else amount
  | .rising =>
    let change := difference previous.reading next.reading
    if change > 0 then change else 0
  | .falling =>
    let change := difference previous.reading next.reading
    if change < 0 then -change else 0

/-- Whether a word holds the time between two samples, if the counter asks for it. -/
def clocks (c : Counter) (previous next : Sample) : Bool :=
  match c.kind with
  | .monotonic => (Word.ofInt? (next.since previous)).isSome
  | _ => true

/-- The amount counted between two samples, if the time between them can be told. -/
def delta (c : Counter) (previous next : Sample) : Except Fault Float :=
  if c.clocks previous next then .ok (c.amount previous next) else .error .overflow

/-- The text of a counter in messages and states. -/
def text (c : Counter) : String :=
  c.kind.token ++ "(max=" ++ c.max.text ++ ", reset=" ++ c.reset.text ++ ")"

end Counter

/-- A fault unless the second sample is later than the first.  `cursor` is named in it. -/
def checkOrder (previous next : Sample) (cursor : String) : Except Fault Unit :=
  if next.time ≤ previous.time then .error (.disorder previous.time next.time cursor) else .ok ()

/-- The choice between plain values and counter readings.  Without a counter its kind is kept
but has no effect. -/
structure RateOptions where
  counted : Bool
  kind : CounterKind
  max : Word
  reset : Word
  deriving DecidableEq, Repr

namespace RateOptions

/-- Plain values. -/
def plain : RateOptions := ⟨false, .monotonic, Int64.ofInt Word.greatest, 0⟩

/-- A counter of a kind that rolls over at the greatest word and is never restarted. -/
def ofKind (kind : CounterKind) : RateOptions := { plain with counted := true, kind := kind }

/-- The kind that has an effect. -/
def kind? (o : RateOptions) : Option CounterKind := if o.counted then some o.kind else none

/-- The counter that has an effect. -/
def counter? (o : RateOptions) : Option Counter :=
  o.kind?.map fun kind => ⟨kind, o.max, o.reset⟩

/-- The text between commas. -/
def splitComma : List Char → List (List Char)
  | [] => [[]]
  | c :: rest =>
    match splitComma rest with
    | [] => [[c]]
    | part :: parts => if c = ',' then [] :: part :: parts else (c :: part) :: parts

/-- A number that may be left out. -/
def number (part : Option (List Char)) (default : Word) (fault : String → SettingFault) :
    Except SettingFault Word :=
  match part with
  | none => .ok default
  | some [] => .ok default
  | some digits =>
    match Text.word? digits with
    | some w => .ok w
    | none => .error (fault (String.ofList digits))

/-- The options that a text `kind[,max[,reset]]` stands for.  Any other kind means plain
values. -/
def parse (text : String) : Except SettingFault RateOptions :=
  let parts := (splitComma text.toList).map Text.trim
  if parts.length > 3 then .error (.rateParts parts.length)
  else
    let base :=
      match CounterKind.ofToken? (String.ofList (parts.headD [])) with
      | some kind => ofKind kind
      | none => plain
    do
      let max ← number parts[1]? base.max .rateMax
      let reset ← number parts[2]? base.reset .rateReset
      return { base with max := max, reset := reset }

/-- The text of rate options, which reads back. -/
def text (o : RateOptions) : String :=
  let kind :=
    match o.kind? with
    | some kind => kind.token
    | none => "none"
  kind ++ "," ++ o.max.text ++ "," ++ o.reset.text

end RateOptions

end TimeBuckets
