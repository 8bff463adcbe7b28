/-
Feeds: samples with a position from which they are read.

* `Feed` — the samples, the position and the number of reads so far;
* `Feed.ordered?` — a feed over samples whose times strictly increase;
* `Feed.next`, `Feed.seek` — the next sample, and a jump to the first sample at a time or later;
* `Feed.remaining` — the samples that are still to be read.

Some reads, known by their number, and all jumps may be set to fail.  A failed read counts as
a read but takes no sample, and a failed jump moves nothing.
-/
import TimeBuckets.Fault

namespace TimeBuckets

/-- The first pair of neighbours that are not in strict order of time, the later one first. -/
def firstDisorder? : List Sample → Option (Word × Word)
  | a :: b :: rest => if b.time ≤ a.time then some (b.time, a.time) else firstDisorder? (b :: rest)
  | _ => none

/-- Samples with a position from which they are read. -/
structure Feed where
  samples : Array Sample
  position : Nat
  /-- The number of reads so far, failed ones included. -/
  reads : Nat
  /-- The numbers of the reads that fail, from one on, and their faults. -/
  readFaults : List (Nat × SourceFault)
  /-- The fault of every jump, if jumps fail. -/
  seekFault : Option SourceFault

namespace Feed

/-- A feed over samples in any order, at the first of them. -/
def ofSamples (samples : List Sample) : Feed := ⟨samples.toArray, 0, 0, [], none⟩

/-- A feed over samples whose times strictly increase. -/
def ordered? (samples : List Sample) : Except SourceFault Feed :=
  match firstDisorder? samples with
  | some (next, previous) => .error (.outOfOrder next previous)
  | none => .ok (ofSamples samples)

/-- The samples that are still to be read. -/
def remaining (f : Feed) : List Sample := f.samples.toList.drop f.position

/-- The number of samples that are still to be read. -/
def left (f : Feed) : Nat := f.samples.size - f.position

/-- Whether a sample is left. -/
def hasNext (f : Feed) : Bool := f.position < f.samples.size

/-- The fault that is set for the next read. -/
def nextFault? (f : Feed) : Option SourceFault := f.readFaults.lookup (f.reads + 1)

/-- Reads the next sample. -/
def next : EStateM SourceFault Feed Sample := fun f =>
  let counted := { f with reads := f.reads + 1 }
  match f.nextFault? with
  | some fault => .error fault counted
  | none =>
    match f.samples[f.position]? with
    | some s => .ok s { counted with position := f.position + 1 }
    | none => .error .exhausted counted

/-- Whether the sample at an index is earlier than a time. -/
def isBefore (samples : Array Sample) (time : Word) (i : Nat) : Bool :=
  match samples[i]? with
  | some s => s.time < time
  | none => false

/-- Halves the range of `size` samples from `base` on, keeping the half that starts with an
earlier sample, until one sample is left.  A `fuel` of `size` is enough. -/
def halve (samples : Array Sample) (time : Word) : Nat → Nat → Nat → Nat
  | 0, base, _ => base
  | fuel + 1, base, size =>
    if size ≤ 1 then base
    else
      let middle := base + size / 2
      let base := if isBefore samples time middle then middle else base
      halve samples time fuel base (size - size / 2)

/-- The index that binary search gives for the first sample at a time or later.  If times
strictly increase, it is the first such index, or the number of samples if there is none. -/
def lowerBound (samples : Array Sample) (time : Word) : Nat :=
  if samples.isEmpty then 0
  else
    let base := halve samples time samples.size 0 samples.size
    if isBefore samples time base then base + 1 else base

/-- Jumps to the first sample at a time or later. -/
def seek (time : Word) : EStateM SourceFault Feed Unit := fun f =>
  match f.seekFault with
  | some fault => .error fault f
  | none => .ok () { f with position := lowerBound f.samples time }

/-- The text of a feed in messages and states. -/
def text (f : Feed) : String :=
  "MemorySource \x7b len: " ++ toString f.samples.size ++ ", position: " ++
    toString f.position ++ " \x7d"

end Feed

end TimeBuckets
