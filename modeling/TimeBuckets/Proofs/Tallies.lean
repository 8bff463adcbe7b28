/-
One loop for all statistics, which takes every value.

* `Tally`, `tally` — how many values there were and what they come to so far, and a statistic taken
  in a loop that keeps nothing else;
* `summarize_eq_tally` — this is what the values give when all of them are kept first;
* `Offers` — the values that a stream gives, and the end or the fault behind them;
* `takeValues_of_offers` — all these values are taken, and then the end or the fault is found;
* `Dwindling`, `Shape.dwindling` — a value leaves less to come, with cursors of every shape;
* `Statistic.summarize_drains` — a statistic is one of all values that a stream gives, or there is
  none.

What a stream gives does not depend on who asks, so that a bucket is left in the same place whatever
is made of its values.
-/
import TimeBuckets.Cursor.Playback
import TimeBuckets.Proofs.Calendar
import TimeBuckets.Proofs.Course
import TimeBuckets.Proofs.Keeping

namespace TimeBuckets

/-! ### Tallies -/

/-- What a loop over the values of a bucket keeps. -/
structure Tally where
  /-- The number of values so far. -/
  seen : Nat
  /-- What they come to. -/
  total : Float

namespace Statistic

/-- What a single value comes to. -/
def single (s : Statistic) (v : Float) : Float :=
  match s with
  | count => 1
  | _ => v

/-- What the values so far come to with one more. -/
def join (s : Statistic) (total v : Float) : Float :=
  match s with
  | sum => total + v
  | mean => total + v
  | least => lesser total v
  | greatest => greater total v
  | first => total
  | last => v
  | count => total + 1

/-- What is made of a tally with one value or more. -/
def close (s : Statistic) (t : Tally) : Float :=
  match s with
  | mean => t.total / Float.ofNat t.seen
  | _ => t.total

end Statistic

namespace Tally

variable {s : Statistic}

/-- No values. -/
def empty : Tally := ⟨0, 0⟩

/-- One value more, of which the first is not joined to anything. -/
def add (s : Statistic) (t : Tally) (v : Float) : Tally :=
  ⟨t.seen + 1, if t.seen = 0 then s.single v else s.join t.total v⟩

/-- The statistic of a tally, if there was one value at least. -/
def result? (s : Statistic) (t : Tally) : Option Float :=
  if t.seen = 0 then none else some (s.close t)

theorem foldl_add (n : Nat) (total : Float) (values : List Float) :
    values.foldl (add s) ⟨n + 1, total⟩ = ⟨n + 1 + values.length, values.foldl s.join total⟩ := by
  induction values generalizing n total with
  | nil => rfl
  | cons v rest ih =>
    rw [List.foldl_cons, List.foldl_cons, List.length_cons, add, if_neg (Nat.succ_ne_zero n), ih,
      Nat.add_assoc (n + 1), Nat.add_comm 1]

/-- The statistic of values joined one after the other. -/
theorem ofNonempty_eq (s : Statistic) (v : Float) (rest : List Float) :
    s.ofNonempty v rest = s.close ⟨rest.length + 1, rest.foldl s.join (s.single v)⟩ := by
  cases s with
  | first =>
    induction rest with
    | nil => rfl
    | cons w rest ih => exact ih
  | last =>
    induction rest generalizing v with
    | nil => rfl
    | cons w rest ih =>
      have hlast : (w :: rest).getLastD v = rest.getLastD w := List.getLastD_cons
      exact hlast.trans (ih w)
  | _ => rfl

theorem result?_foldl (s : Statistic) (values : List Float) :
    result? s (values.foldl (add s) empty) = s.ofValues? values := by
  cases values with
  | nil => rfl
  | cons v rest =>
    -- only the first value meets the tally without values
    have hfirst : add s empty v = ⟨0 + 1, s.single v⟩ := rfl
    rw [List.foldl_cons, hfirst, foldl_add, Statistic.ofValues?, ofNonempty_eq, Nat.zero_add,
      Nat.add_comm]
    exact if_neg (Nat.succ_ne_zero rest.length)

end Tally

section Stream

variable {σ : Type} [ValueStream σ] {c c' c₁ c₂ : σ} {values : List Float} {stop : Option Fault}

/-- Adds the values that are left in the bucket to a tally, `n` at most, each as it comes. -/
def tallyValues (s : Statistic) : Nat → Tally → EStateM Fault σ Tally
  | 0, t => pure t
  | n + 1, t => do
    if ← ValueStream.hasValue then
      let value ← ValueStream.nextValue
      tallyValues s n (t.add s value)
    else
      return t

/-- A statistic of all values that are left in the bucket, none of which is kept. -/
def tally (s : Statistic) : EStateM Fault σ Float := do
  match (← tallyValues s (ValueStream.pending (← get) + 1) .empty).result? s with
  | some value => return value
  | none => throw (.emptyBucket s.name)

/-- Adding values as they come is adding them once they were all taken. -/
theorem tallyValues_eq (s : Statistic) (n : Nat) : ∀ (t : Tally) (c : σ),
    tallyValues s n t c = match takeValues n c with
      | .ok values c' => .ok (values.foldl (Tally.add s) t) c'
      | .error fault c' => .error fault c' := by
  induction n with
  | zero => exact fun _ _ => rfl
  | succ n ih =>
    intro t c
    rw [tallyValues, takeValues]
    rcases hask : ValueStream.hasValue c with ⟨more, c₁⟩ | ⟨fault, c₁⟩
    · rw [bind_of_ok hask, bind_of_ok hask]
      cases more with
      | false => rfl
      | true =>
        rw [if_pos rfl, if_pos rfl]
        rcases hread : ValueStream.nextValue c₁ with ⟨v, c₂⟩ | ⟨fault, c₂⟩
        · rw [bind_of_ok hread, bind_of_ok hread, ih]
          rcases htake : takeValues n c₂ with ⟨rest, c₃⟩ | ⟨fault, c₃⟩
          · rw [bind_of_ok htake]
            rfl
          · rw [bind_of_error htake]
        · rw [bind_of_error hread, bind_of_error hread]
    · rw [bind_of_error hask, bind_of_error hask]

/-- A single loop over the bucket gives what its values give when all of them are kept first. -/
theorem summarize_eq_tally (s : Statistic) (c : σ) : summarize s c = tally s c := by
  have hloop := tallyValues_eq s (ValueStream.pending c + 1) .empty c
  rw [summarize, tally, get_bind]
  rcases htake : takeValues (ValueStream.pending c + 1) c with ⟨values, c'⟩ | ⟨fault, c'⟩
  · rw [htake] at hloop
    rw [bind_of_ok (show bucketValues c = .ok values c' from htake), ← Tally.result?_foldl]
    refine Eq.trans ?_ (bind_of_ok hloop).symm
    rfl
  · rw [htake] at hloop
    rw [bind_of_error (show bucketValues c = .error fault c' from htake), bind_of_error hloop]

/-! ### Streams -/

/-- What a stream gives: values, one after the other, and then the end of the bucket, or the fault
of asking for a value or of reading one. -/
inductive Offers : σ → List Float → Option Fault → σ → Prop
  | ended {c c' : σ} (hask : ValueStream.hasValue c = .ok false c') : Offers c [] none c'
  | unasked {c c' : σ} {fault : Fault} (hask : ValueStream.hasValue c = .error fault c') :
    Offers c [] (some fault) c'
  | unread {c c₁ c' : σ} {fault : Fault} (hask : ValueStream.hasValue c = .ok true c₁)
    (hread : ValueStream.nextValue c₁ = .error fault c') : Offers c [] (some fault) c'
  | value {c c₁ c₂ c' : σ} {v : Float} {values : List Float} {stop : Option Fault}
    (hask : ValueStream.hasValue c = .ok true c₁) (hread : ValueStream.nextValue c₁ = .ok v c₂)
    (rest : Offers c₂ values stop c') : Offers c (v :: values) stop c'

/-- All values that a stream gives are taken, and then the end or the fault is found. -/
theorem takeValues_of_offers (spare : Nat) : Offers c values stop c' →
    takeValues (spare + values.length + 1) c = match stop with
      | none => .ok values c'
      | some fault => .error fault c' := by
  intro h
  induction h with
  | ended hask =>
    rw [takeValues, bind_of_ok hask]
    rfl
  | unasked hask => rw [takeValues, bind_of_error hask]
  | unread hask hread => rw [takeValues, bind_of_ok hask, if_pos rfl, bind_of_error hread]
  | @value c c₁ c₂ c' v values stop hask hread rest ih =>
    have hrest : takeValues (spare + (v :: values).length) c₂ = _ := ih
    rw [takeValues, bind_of_ok hask, if_pos rfl, bind_of_ok hread]
    cases stop with
    | none =>
      rw [bind_of_ok hrest]
      rfl
    | some fault => rw [bind_of_error hrest]

/-- A statistic is one of all values that a stream gives before the end of the bucket, and a stream
without any before that or with a fault has none. -/
theorem summarize_of_offers (s : Statistic) :
    Offers c values stop c' → values.length ≤ ValueStream.pending c →
      summarize s c = match stop, values with
        | some fault, _ => .error fault c'
        | none, [] => .error (.emptyBucket s.name) c'
        | none, v :: rest => .ok (s.ofNonempty v rest) c' := by
  intro h hle
  have htake := takeValues_of_offers (ValueStream.pending c - values.length) h
  rw [Nat.sub_add_cancel hle] at htake
  rcases stop with _ | fault
  · rw [summarize, bind_of_ok (show bucketValues c = .ok values c' from htake)]
    cases values with
    | nil => rfl
    | cons v rest => rfl
  · exact bind_of_error (show bucketValues c = .error fault c' from htake)

end Stream

/-! ### Cursors -/

/-- No operation but a jump gives a cursor more to come, and every value that is taken leaves
less. -/
structure Dwindling (σ : Type) [BucketCursor σ] : Prop where
  hasValue (n : Nat) : Keeps (fun c : σ => ValueStream.pending c ≤ n) ValueStream.hasValue
  openNext (n : Nat) : Keeps (fun c : σ => ValueStream.pending c ≤ n) BucketCursor.openNext
  nextValue {c c' : σ} {v : Float} : ValueStream.nextValue c = .ok v c' →
    ValueStream.pending c' < ValueStream.pending c
  setWidth (width : Word) (c : σ) :
    ValueStream.pending (BucketCursor.setWidth width c) = ValueStream.pending c
  setEnd (last : Word) (c : σ) :
    ValueStream.pending (BucketCursor.setEnd last c) = ValueStream.pending c

namespace Dwindling

variable {σ : Type} [BucketCursor σ] {c c' : σ}

theorem le_of_hasValue (h : Dwindling σ) {more : Bool}
    (hask : ValueStream.hasValue c = .ok more c') :
    ValueStream.pending c' ≤ ValueStream.pending c := by
  have hkeeps := h.hasValue (ValueStream.pending c) c (Nat.le_refl _)
  rwa [after_of_ok hask] at hkeeps

/-- A cursor gives some values and then the end or a fault, and no more than are held to come. -/
theorem exists_offers (h : Dwindling σ) (n : Nat) : ∀ c : σ, ValueStream.pending c < n →
    ∃ values stop c', Offers c values stop c' ∧ values.length ≤ ValueStream.pending c := by
  -- on a bound of what is held to come, which every value lowers
  induction n with
  | zero => exact fun _ hn => absurd hn (Nat.not_lt_zero _)
  | succ n ih =>
    intro c hn
    rcases hask : ValueStream.hasValue c with ⟨more, c₁⟩ | ⟨fault, c₁⟩
    · have hle := h.le_of_hasValue hask
      cases more with
      | false => exact ⟨[], none, c₁, .ended hask, Nat.zero_le _⟩
      | true =>
        rcases hread : ValueStream.nextValue c₁ with ⟨v, c₂⟩ | ⟨fault, c₂⟩
        · have hlt := h.nextValue hread
          obtain ⟨values, stop, c', hoffers, hlength⟩ := ih c₂ (by omega)
          refine ⟨v :: values, stop, c', .value hask hread hoffers, ?_⟩
          rw [List.length_cons]
          omega
        · exact ⟨[], some fault, c₂, .unread hask hread, Nat.zero_le _⟩
    · exact ⟨[], some fault, c₁, .unasked hask, Nat.zero_le _⟩

end Dwindling

/-- A cursor that has a value leaves less to come when the value is taken, if asking for it comes
first and leaves no more. -/
theorem Course.lt_of_nextValue {σ : Type} [BucketCursor σ] {Fresh Begun : σ → Prop}
    {Barred Blocked : Fault → σ → Prop} (h : Course Fresh Begun Barred Blocked)
    {next : Bool → EStateM Fault σ Float} {c c' : σ} {v : Float} (hc : Fresh c ∨ Begun c)
    (hkeeps : Keeps (fun c' : σ => ValueStream.pending c' ≤ ValueStream.pending c)
      ValueStream.hasValue)
    (hnext : ∀ c : σ, ValueStream.nextValue c = (ValueStream.hasValue >>= next) c)
    (hnone : ∀ c, next false c ≠ .ok v c') (hread : ValueStream.nextValue c = .ok v c') :
    ValueStream.pending c' < ValueStream.pending c := by
  rw [hnext] at hread
  obtain ⟨more, c₁, hask, hrest⟩ := of_bind_ok hread
  have hle := hkeeps c (Nat.le_refl _)
  rw [after_of_ok hask] at hle
  cases more with
  | false => exact absurd hrest (hnone c₁)
  | true =>
    -- asked again, the cursor stays where it is, so that this is the value of the asked cursor
    obtain ⟨hbegun, hagain⟩ := h.asked hc hask
    have hless := h.nextValue hbegun hagain
    rw [hnext, bind_of_ok hagain, hrest] at hless
    exact Nat.lt_of_lt_of_le hless.2 hle

namespace Grid

variable {g g' : Grid} {n : Nat}

theorem keeps_pending_fill : Keeps (fun g : Grid => pending g ≤ n) fill := by
  intro g hg
  by_cases hphase : g.phase = .unread
  · have hleft : pending g = g.feed.left := by rw [pending, hphase]
    rcases fill_cases hphase with ⟨hfill, -⟩ | ⟨fault, hfill, -⟩
    · rw [after, hfill, ← after]
      refine keeps_of_setEnd (P := fun g : Grid => pending g ≤ n) (fun _ _ h => h) g.started ?_
      exact Nat.le_trans (hleft ▸ pending_started_le g) hg
    · rw [after_of_error hfill]
      exact hg
  · rwa [after_of_ok (fill_of_begun hphase)]

theorem keeps_pending_hasValue : Keeps (fun g : Grid => pending g ≤ n) hasValue :=
  keeps_pending_fill.bind fun _ => Keeps.get_bind fun _ _ => Keeps.pure _

theorem dwindling : Dwindling Grid where
  hasValue _ := keeps_pending_hasValue
  openNext _ := keeps_pending_fill.bind fun _ => keeps_of_setEnd fun _ _ h => h
  nextValue h := by
    refine course.lt_of_nextValue (Classical.em _) keeps_pending_hasValue (fun _ => rfl) ?_ h
    intro g hnone
    cases hnone
  setWidth width g := by
    show pending (g.setWidth width) = pending g
    rw [Grid.setWidth]
    split
    · rfl
    · rfl
  setEnd _ _ := rfl

end Grid

namespace Runs

variable {n : Nat}

theorem pending_skipIdle_le {r : Runs} (hbegun : r.phase ≠ .unread)
    (h : pending r ≤ n) : pending (after skipIdle r) ≤ n := by
  have hcases := skipIdle_cases hbegun
  rcases hskip : skipIdle r with ⟨_, r'⟩ | ⟨fault, r'⟩
  · rw [hskip] at hcases
    rw [after_of_ok hskip]
    exact Nat.le_trans hcases.2 h
  · rw [hskip] at hcases
    rw [after_of_error hskip]
    exact Nat.le_trans hcases.2.1 h

theorem begun_after_fill (r : Runs) (h : pending r ≤ n) :
    (after fill r).phase ≠ .unread ∧ pending (after fill r) ≤ n := by
  by_cases hphase : r.phase = .unread
  · have hleft : pending r = r.feed.left := by rw [pending, hphase]
    have hcases := fill_cases hphase
    rcases hfill : fill r with ⟨_, r'⟩ | ⟨fault, r'⟩
    · rw [hfill] at hcases
      rw [after_of_ok hfill]
      exact ⟨hcases.1, by omega⟩
    · rw [hfill] at hcases
      rw [after_of_error hfill]
      exact ⟨hcases.1, by omega⟩
  · rw [after_of_ok (fill_of_begun hphase)]
    exact ⟨hphase, h⟩

theorem keeps_pending_hasValue : Keeps (fun r : Runs => pending r ≤ n) hasValue :=
  Keeps.bind (fun r hr => (begun_after_fill r hr).2) fun _ => keeps_holdsLive

theorem dwindling : Dwindling Runs where
  hasValue _ := keeps_pending_hasValue
  openNext n := by
    intro r hr
    obtain ⟨hbegun, hle⟩ := begun_after_fill r hr
    rcases hfill : fill r with ⟨_, r'⟩ | ⟨fault, r'⟩
    · rw [after_of_ok hfill] at hbegun hle
      show pending (after openNext r) ≤ n
      rw [openNext, after_bind_of_ok hfill]
      exact pending_skipIdle_le hbegun hle
    · rw [after_of_error hfill] at hle
      rwa [after_of_error (show BucketCursor.openNext r = _ from bind_of_error hfill)]
  nextValue h := by
    refine course.lt_of_nextValue (Classical.em _) keeps_pending_hasValue (fun _ => rfl) ?_ h
    intro r hnone
    cases hnone
  setWidth _ _ := rfl
  setEnd _ _ := rfl

end Runs

namespace CalendarCursor

variable {σ : Type} [BucketCursor σ]

theorem dwindling (h : Dwindling σ) : Dwindling (CalendarCursor σ) := by
  have hwidth (n : Nat) (width : Word) (c : σ) (hc : ValueStream.pending c ≤ n) :
      ValueStream.pending (BucketCursor.setWidth width c) ≤ n := by rwa [h.setWidth]
  have hend (n : Nat) (last : Word) (c : σ) (hc : ValueStream.pending c ≤ n) :
      ValueStream.pending (BucketCursor.setEnd last c) ≤ n := by rwa [h.setEnd]
  have hasks (n : Nat) : Keeps (fun c : CalendarCursor σ => ValueStream.pending c.inner ≤ n)
      hasValue := keeps_inner (P := fun c : σ => ValueStream.pending c ≤ n) fun u z =>
    keeps_hasValue (h.hasValue n) (h.openNext n) (fun w _ => hwidth n w) (hend n)
  refine ⟨hasks, fun n => ?_, fun {c c' v} hread => ?_, fun _ _ => rfl, fun _ _ => rfl⟩
  · exact keeps_inner (P := fun c : σ => ValueStream.pending c ≤ n) fun u z =>
      keeps_openNext (h.hasValue n) (h.openNext n) (fun w _ => hwidth n w) (hend n)
  · obtain ⟨more, c₁, hask, hrest⟩ := of_bind_ok (show nextValue c = .ok v c' from hread)
    have hle := hasks (ValueStream.pending c.inner) c (Nat.le_refl _)
    rw [after_of_ok hask] at hle
    cases more with
    | false => cases hrest
    | true =>
      -- the value is one of the cursor below, as it is after it was asked
      obtain ⟨inner, hinner, rfl⟩ := of_below_ok hrest
      exact Nat.lt_of_lt_of_le (h.nextValue hinner) hle

end CalendarCursor

/-- A value leaves less to come, with cursors of every shape. -/
theorem Shape.dwindling (shape : Shape) : Dwindling shape.State := by
  induction shape with
  | grid => exact Grid.dwindling
  | runs => exact Runs.dwindling
  | calendar inner ih => exact CalendarCursor.dwindling ih

/-! ### Values that are known beforehand -/

namespace Playback

variable {values : List Float} {used : Nat} {failing : Option Nat}

theorem nextValue_cons {v : Float} (h : failing ≠ some used) :
    ValueStream.nextValue (⟨v :: values, used, failing⟩ : Playback) =
      .ok v ⟨values, used + 1, failing⟩ := by
  show nextValue _ = _
  rw [nextValue, get_bind]
  exact congrFun (if_neg h) _

/-- Without a value that cannot be read, all values are given. -/
theorem offers_all (values : List Float) (used : Nat)
    (h : ∀ k < values.length, failing ≠ some (used + k)) :
    Offers (⟨values, used, failing⟩ : Playback) values none
      ⟨[], used + values.length, failing⟩ := by
  induction values generalizing used with
  | nil => exact .ended rfl
  | cons v rest ih =>
    refine .value rfl (nextValue_cons (h 0 (Nat.succ_pos _))) ?_
    have hrest := ih (used + 1) fun k hk => by
      rw [Nat.add_assoc, Nat.add_comm 1]
      exact h (k + 1) (Nat.succ_lt_succ hk)
    rwa [Nat.add_assoc, Nat.add_comm 1] at hrest

theorem nextValue_of_failing (values : List Float) (used : Nat) :
    ValueStream.nextValue (⟨values, used, some used⟩ : Playback) =
      .error (.source .exhausted) ⟨values, used, some used⟩ := by
  show nextValue _ = _
  rw [nextValue, get_bind]
  exact congrFun (if_pos rfl) _

/-- The values before the one that cannot be read are given. -/
theorem offers_before {k : Nat} (values : List Float) (used : Nat) (hk : k < values.length) :
    Offers (⟨values, used, some (used + k)⟩ : Playback) (values.take k)
      (some (.source .exhausted)) ⟨values.drop k, used + k, some (used + k)⟩ := by
  induction values generalizing used k with
  | nil => exact absurd hk (Nat.not_lt_zero k)
  | cons v rest ih =>
    cases k with
    | zero => exact .unread rfl (nextValue_of_failing (v :: rest) used)
    | succ k =>
      have hfailing : some (used + (k + 1)) ≠ some used := by
        rw [ne_eq, Option.some.injEq]
        omega
      have hrest := ih (used + 1) (Nat.lt_of_succ_lt_succ hk)
      rw [Nat.add_assoc, Nat.add_comm 1] at hrest
      exact .value rfl (nextValue_cons hfailing) hrest

end Playback

/-! ### All statistics -/

/-- A statistic is taken in a single loop, of all values that a stream gives before the end of the
bucket, whatever the statistic is.  A fault on the way is its fault, and a bucket without a value
has none.  Cursors of every shape give no more values than are held to come, in whatever state they
are, and of values that are known beforehand just those before the one that cannot be read are
taken. -/
theorem Statistic.summarize_drains (s : Statistic) :
    (∀ (σ : Type) [ValueStream σ] (c : σ), summarize s c = tally s c) ∧
    (∀ (σ : Type) [ValueStream σ] (c c' : σ) (values : List Float) (stop : Option Fault),
      Offers c values stop c' → values.length ≤ ValueStream.pending c →
        summarize s c = match stop, values with
          | some fault, _ => .error fault c'
          | none, [] => .error (.emptyBucket s.name) c'
          | none, v :: rest => .ok (s.ofNonempty v rest) c') ∧
    (∀ (shape : Shape) (c : shape.State), ∃ values stop c',
      Offers c values stop c' ∧ values.length ≤ ValueStream.pending c) ∧
    (∀ (values : List Float) (k : Nat), k < values.length →
      summarize s (⟨values, 0, some k⟩ : Playback) =
        .error (.source .exhausted) ⟨values.drop k, k, some k⟩) ∧
    ∀ (values : List Float) (failing : Option Nat), (∀ k < values.length, failing ≠ some k) →
      summarize s (⟨values, 0, failing⟩ : Playback) = match values with
        | [] => .error (.emptyBucket s.name) ⟨[], 0, failing⟩
        | v :: rest => .ok (s.ofNonempty v rest) ⟨[], rest.length + 1, failing⟩ := by
  refine ⟨fun σ _ c => summarize_eq_tally s c, fun σ _ c c' values stop => summarize_of_offers s,
    fun shape c => shape.dwindling.exists_offers _ c (Nat.lt_succ_self _), fun values k hk => ?_,
    fun values failing h => ?_⟩
  · have hoffers := Playback.offers_before values 0 hk
    rw [Nat.zero_add] at hoffers
    exact summarize_of_offers s hoffers (List.length_take_le' k values)
  · have hreadable : ∀ k < values.length, failing ≠ some (0 + k) := by
      intro k hk
      rw [Nat.zero_add]
      exact h k hk
    have hoffers := Playback.offers_all values 0 hreadable
    rw [Nat.zero_add] at hoffers
    cases values with
    | nil => exact summarize_of_offers s hoffers (Nat.le_refl _)
    | cons v rest => exact summarize_of_offers s hoffers (Nat.le_refl _)

/-- Four values, all of them or two of them, and none. -/
theorem Statistic.summarize_drains_of_four :
    summarize .mean (⟨[4, -2, 10, 8], 0, none⟩ : Playback) = .ok 5 ⟨[], 4, none⟩ ∧
    summarize .first (⟨[4, -2, 10, 8], 0, none⟩ : Playback) = .ok 4 ⟨[], 4, none⟩ ∧
    tally .first (⟨[4, -2, 10, 8], 0, some 2⟩ : Playback) =
      .error (.source .exhausted) ⟨[10, 8], 2, some 2⟩ ∧
    summarize .greatest (⟨[4, -2, 10, 8], 1, some 3⟩ : Playback) =
      .error (.source .exhausted) ⟨[10, 8], 3, some 3⟩ ∧
    summarize .count (⟨[], 0, some 3⟩ : Playback) =
      .error (.emptyBucket "count") ⟨[], 0, some 3⟩ := by
  obtain ⟨-, -, -, -, hmean⟩ := summarize_drains .mean
  obtain ⟨hloop, -, -, hstopped, hfirst⟩ := summarize_drains .first
  obtain ⟨-, hoffered, -, -, -⟩ := summarize_drains .greatest
  obtain ⟨-, -, -, -, hnone⟩ := summarize_drains .count
  have hfive : Statistic.mean.ofNonempty 4 [-2, 10, 8] = 5 := by decide +kernel
  exact ⟨(hmean [4, -2, 10, 8] none nofun).trans (congrArg (EStateM.Result.ok · _) hfive),
    hfirst [4, -2, 10, 8] none nofun,
    (hloop Playback _).symm.trans (hstopped [4, -2, 10, 8] 2 (by decide)),
    hoffered Playback _ _ _ _ (Playback.offers_before (k := 2) [4, -2, 10, 8] 1 (by decide))
      (by decide), hnone [] (some 3) nofun⟩

end TimeBuckets
