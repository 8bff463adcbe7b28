/-
Cursors above other cursors.

* `Layer` — a cursor seen as the items ahead of it and the bucket that is open, whatever lies below
  it;
* `Layer.Lawful`, `Layer.Pinned`, `Layer.Dated` — what its operations do, what it is to be given a
  width and an end from above, and at what times its buckets stand;
* `Layer.CutsInto` — the items cut into the buckets of a drain;
* `Layer.Dated.exists_cut` — a drain without a fault gives the statistics of such a cut;
* `Grid.layer`, `Runs.layer`, `CalendarCursor.layer` — grids, runs, and calendars above any layer.

A walk says that its operations succeed.  A layer says only what holds when they do: whether a
calendar can open its unit depends on buckets far below it, which nothing that comes out of the
calendar depends on.
-/
import Mathlib.Data.List.DropRight
import TimeBuckets.Proofs.CalendarCourse
import TimeBuckets.Proofs.Supply

namespace TimeBuckets

/-- A cursor seen as the items ahead of it and the bucket that is open. -/
structure Layer (σ : Type) {α : Type} (timed : α → Timed) (idle : α → Bool) (β : Type) where
  /-- Whether a bucket takes an item that is next. -/
  takes : β → α → Bool
  /-- An item may open this bucket. -/
  Enters : α → β → Prop
  /-- Nothing has been read yet, and these items are to come. -/
  Unread : σ → List α → Prop
  /-- The cursor has begun to read, has these items ahead, and has this bucket open. -/
  Holds : σ → List α → β → Prop

namespace Layer

variable {σ α β : Type} {timed : α → Timed} {idle : α → Bool}

/-- The cursor has these items ahead but for the idle ones in front, and the first one that is not
idle has opened the bucket. -/
def Opens (L : Layer σ timed idle β) (c : σ) (items : List α) : Prop :=
  ∃ b, L.Holds c (items.dropWhile idle) b ∧ ∀ a ∈ (items.dropWhile idle).head?, L.Enters a b

/-- The items cut into buckets: idle items between buckets are left out, an item that is not idle
opens a bucket, and the bucket goes on as long as it takes the next item. -/
inductive CutsInto (L : Layer σ timed idle β) : List α → List (List α × β) → Prop
  | nil {items : List α} (hitems : items.dropWhile idle = []) : CutsInto L items []
  | cons {items : List α} {a : α} {rest : List α} {b : β} {parts : List (List α × β)}
    (hitems : items.dropWhile idle = a :: rest) (henters : L.Enters a b)
    (hparts : CutsInto L (rest.dropWhile (L.takes b)) parts) :
    CutsInto L items ((a :: rest.takeWhile (L.takes b), b) :: parts)

section Laws

variable [BucketCursor σ]

/-- What the operations do, as far as they succeed. -/
structure Lawful (L : Layer σ timed idle β) : Prop where
  takes_of_enters {a : α} {b : β} : L.Enters a b → L.takes b a = true
  live_of_takes {a : α} {b : β} : L.takes b a = true → idle a = false
  length_le {c : σ} {items : List α} : (L.Unread c items ∨ ∃ b, L.Holds c items b) →
    items.length ≤ ValueStream.pending c
  hasValue {c c' : σ} {items : List α} {b : β} {more : Bool} :
    L.Holds c items b → ValueStream.hasValue c = .ok more c' →
      more = items.head?.any (L.takes b) ∧ c' = c
  hasValue_of_unread {c c' : σ} {items : List α} {more : Bool} :
    L.Unread c items → ValueStream.hasValue c = .ok more c' →
      L.Opens c' items ∧ ValueStream.hasValue c' = .ok more c'
  nextValue {c c' : σ} {a : α} {rest : List α} {b : β} {value : Float} :
    L.Holds c (a :: rest) b → L.takes b a = true → ValueStream.nextValue c = .ok value c' →
      value = (timed a).value ∧ L.Holds c' rest b
  openNext {c c' : σ} {items : List α} : (L.Unread c items ∨ ∃ b, L.Holds c items b) →
    BucketCursor.openNext c = .ok () c' → L.Opens c' items

/-- What is given from above: the first item ahead is held, a width changes nothing that matters
here, and an end may change what the open bucket takes, but not so as to leave out the item that
opened it. -/
structure Pinned (L : Layer σ timed idle β) (withEnd : Word → β → β) : Prop extends Lawful L where
  pendingTime {c : σ} {a : α} {rest : List α} {b : β} :
    L.Holds c (a :: rest) b → BucketCursor.pendingTime c = some (timed a).time
  setWidth {c : σ} {items : List α} {b : β} (width : Word) :
    L.Holds c items b → L.Holds (BucketCursor.setWidth width c) items b
  setEnd {c : σ} {items : List α} {b : β} (last : Word) :
    L.Holds c items b → L.Holds (BucketCursor.setEnd last c) items (withEnd last b)
  takes_withEnd {a : α} {b : β} {last : Word} :
    L.Enters a b → (timed a).time < last → L.takes (withEnd last b) a = true

/-- At what times the buckets stand. -/
structure Dated (L : Layer σ timed idle β) (start : β → Word) : Prop extends Lawful L where
  bucketTime {c : σ} {items : List α} {b : β} {time : Word} :
    L.Holds c items b → BucketCursor.bucketTime c = .ok time → time = start b

end Laws

/-! ### Drains -/

section Drain

variable [BucketCursor σ] {L : Layer σ timed idle β} {start : β → Word} {c c' : σ}
  {items : List α} {b : β} {s : Statistic} {points : List Point}

/-- The point is the statistic of a bucket, at the time of the bucket. -/
def IsPoint (timed : α → Timed) (start : β → Word) (s : Statistic) (part : List α × β)
    (p : Point) : Prop :=
  p.time = start part.2 ∧ s.ofValues? (part.1.map fun a => (timed a).value) = some p.value

/-- Taking all values takes the items in front that belong to the open bucket. -/
theorem Lawful.takeValues_ok (h : L.Lawful) : ∀ {items : List α} {c c' : σ} {n : Nat}
    {values : List Float}, L.Holds c items b → items.length ≤ n → takeValues n c = .ok values c' →
    values = (items.takeWhile (L.takes b)).map (fun a => (timed a).value) ∧
      L.Holds c' (items.dropWhile (L.takes b)) b := by
  intro items
  induction items with
  | nil =>
    intro c c' n values hc _ htake
    rcases n with _ | n
    · obtain ⟨rfl, rfl⟩ := EStateM.Result.ok.inj htake
      exact ⟨rfl, hc⟩
    · obtain ⟨more, c₁, hhas, hrest⟩ := of_bind_ok htake
      obtain ⟨rfl, rfl⟩ := h.hasValue hc hhas
      obtain ⟨rfl, rfl⟩ := EStateM.Result.ok.inj hrest
      exact ⟨rfl, hc⟩
  | cons a rest ih =>
    intro c c' n values hc hn htake
    rw [List.length_cons] at hn
    obtain ⟨n, rfl⟩ : ∃ m, n = m + 1 := ⟨n - 1, by omega⟩
    obtain ⟨more, c₁, hhas, hafter⟩ := of_bind_ok htake
    obtain ⟨rfl, rfl⟩ := h.hasValue hc hhas
    rw [List.head?_cons, Option.any_some] at hafter
    -- the first item is taken and it goes on, or it ends here
    by_cases ha : L.takes b a = true
    · rw [if_pos ha] at hafter
      obtain ⟨value, c₂, hnext, hafter⟩ := of_bind_ok hafter
      obtain ⟨others, c₃, hothers, hlast⟩ := of_bind_ok hafter
      obtain ⟨rfl, rfl⟩ := EStateM.Result.ok.inj hlast
      obtain ⟨rfl, hc₂⟩ := h.nextValue hc ha hnext
      obtain ⟨rfl, hc₃⟩ := ih hc₂ (n := n) (by omega) hothers
      rw [List.takeWhile_cons_of_pos ha, List.dropWhile_cons_of_pos ha]
      exact ⟨rfl, hc₃⟩
    · rw [if_neg ha] at hafter
      obtain ⟨rfl, rfl⟩ := EStateM.Result.ok.inj hafter
      rw [List.takeWhile_cons_of_neg ha, List.dropWhile_cons_of_neg ha]
      exact ⟨rfl, hc⟩

/-- Taking a bucket takes the items in front that belong to it, and the next item opens another
one. -/
theorem Dated.takeBucket (h : L.Dated start) {a : α} {rest : List α} {p : Point}
    (hc : L.Holds c (a :: rest) b) (ha : L.takes b a = true) (htake : takeBucket s c = .ok p c') :
    IsPoint timed start s (a :: rest.takeWhile (L.takes b), b) p ∧
      L.Opens c' (rest.dropWhile (L.takes b)) := by
  obtain ⟨value, c₁, hsum, hafter⟩ := of_bind_ok htake
  obtain ⟨values, c₁', htaken, hvalue⟩ := of_bind_ok (show (bucketValues >>= _) c = _ from hsum)
  have htaken' : takeValues (ValueStream.pending c + 1) c = .ok values c₁' := htaken
  obtain ⟨rfl, h₁⟩ := h.takeValues_ok hc
    (Nat.le_succ_of_le (h.length_le (Or.inr ⟨b, hc⟩))) htaken'
  rw [List.takeWhile_cons_of_pos ha, List.map_cons] at hvalue
  rw [List.dropWhile_cons_of_pos ha] at h₁
  obtain ⟨rfl, rfl⟩ := EStateM.Result.ok.inj hvalue
  obtain ⟨time, c₂, htime, hrest⟩ := of_bind_ok hafter
  obtain ⟨_, c₃, hopen, hpoint⟩ := of_bind_ok hrest
  obtain ⟨rfl, rfl⟩ := EStateM.Result.ok.inj hpoint
  obtain rfl := (after_of_ok htime).symm.trans (readBucketTime_state _)
  have hdate : BucketCursor.bucketTime c₂ = .ok time := by
    rw [readBucketTime] at htime
    rcases hbucket : BucketCursor.bucketTime c₂ with fault | time'
    · rw [hbucket] at htime
      cases htime
    · rw [hbucket] at htime
      rw [(EStateM.Result.ok.inj htime).1]
  exact ⟨⟨h.bucketTime h₁ hdate, rfl⟩, h.openNext (Or.inr ⟨b, h₁⟩) hopen⟩

/-- Draining from an open bucket without a fault gives the statistics of the buckets into which the
items ahead are cut. -/
theorem Dated.exists_cut_of_opens (h : L.Dated start) {n : Nat} : ∀ {c : σ} {items : List α}
    {points : List Point}, L.Opens c items → items.length < n →
    (drain (nextBucket s) n c).1 = ⟨points, none⟩ →
    ∃ parts, L.CutsInto items parts ∧ List.Forall₂ (IsPoint timed start s) parts points := by
  induction n with
  | zero => exact fun _ hn => absurd hn (Nat.not_lt_zero _)
  | succ n ih =>
    intro c items points hopens hn hend
    obtain ⟨b, hc, henters⟩ := hopens
    rcases hhas : ValueStream.hasValue c with ⟨more, c₁⟩ | ⟨fault, c₁⟩
    case error =>
      have hnext : nextBucket s c = .error fault c₁ := bind_of_error hhas
      rw [drain, hnext] at hend
      exact absurd (Drained.mk.inj hend).2 (Option.some_ne_none fault)
    obtain ⟨rfl, rfl⟩ := h.hasValue hc hhas
    rcases hitems : items.dropWhile idle with _ | ⟨a, rest⟩
    · rw [hitems] at hhas
      rw [drain, Walk.nextBucket_of_not_hasValue hhas] at hend
      obtain rfl := (Drained.mk.inj hend).1
      exact ⟨[], .nil hitems, .nil⟩
    · rw [hitems] at hc hhas henters
      have hentered := henters a rfl
      have htakes := h.takes_of_enters hentered
      rw [List.head?_cons, Option.any_some, htakes] at hhas
      rcases htake : TimeBuckets.takeBucket s c₁ with ⟨p, c'⟩ | ⟨fault, c'⟩
      · obtain ⟨hpoint, hopens'⟩ := h.takeBucket hc htakes htake
        rw [drain, Walk.nextBucket_of_hasValue hhas htake] at hend
        have hlength : (rest.dropWhile (L.takes b)).length < n := by
          have hitems' := (List.dropWhile_sublist idle (l := items)).length_le
          have hrest := (List.dropWhile_sublist (L.takes b) (l := rest)).length_le
          rw [hitems, List.length_cons] at hitems'
          omega
        obtain ⟨hpoints, hfault⟩ := Drained.mk.inj hend
        obtain ⟨points', hrest⟩ := Drained.exists_points hfault
        obtain ⟨parts, hparts, heach⟩ := ih hopens' hlength hrest
        rw [hrest] at hpoints
        rw [← hpoints]
        exact ⟨_, .cons hitems hentered hparts, .cons hpoint heach⟩
      · have hnext : nextBucket s c₁ = .error fault c' := by
          rw [nextBucket, bind_of_ok hhas, if_pos rfl, bind_of_error htake]
        rw [drain, hnext] at hend
        exact absurd (Drained.mk.inj hend).2 (Option.some_ne_none fault)

/-- Draining a cursor that has read nothing yet without a fault gives the statistics of the buckets
into which the items are cut. -/
theorem Dated.exists_cut (h : L.Dated start) (hc : L.Unread c items)
    (hend : (drainBuckets s c).1 = ⟨points, none⟩) :
    ∃ parts, L.CutsInto items parts ∧ List.Forall₂ (IsPoint timed start s) parts points := by
  rw [drainBuckets] at hend
  rcases hhas : ValueStream.hasValue c with ⟨more, c'⟩ | ⟨fault, c'⟩
  · obtain ⟨hopens, hagain⟩ := h.hasValue_of_unread hc hhas
    have hsame : nextBucket s c = nextBucket s c' := bind_congr_state (hhas.trans hagain.symm)
    rw [drain, hsame, ← drain] at hend
    exact h.exists_cut_of_opens hopens (Nat.lt_succ_of_le (h.length_le (Or.inl hc))) hend
  · have hnext : nextBucket s c = .error fault c' := bind_of_error hhas
    rw [drain, hnext] at hend
    exact absurd (Drained.mk.inj hend).2 (Option.some_ne_none fault)

end Drain

end Layer

/-! ### Grids -/

namespace Grid

variable {P : Word → Word → Prop} {g g' : Grid} {values : List Timed} {v : Timed} {last : Word}

/-- The bucket of a time in a grid of this width and offset ends here, and words can hold its
start. -/
structure EndsAt (width offset time last : Word) : Prop where
  pos : 0 < width.toInt
  least_le : Word.least ≤ startOf width.toInt offset.toInt time.toInt
  last_eq : last.toInt = startOf width.toInt offset.toInt time.toInt + width.toInt

theorem EndsAt.lt {width offset time : Word} (h : EndsAt width offset time last) : time < last := by
  rw [Int64.lt_iff_toInt_lt, h.last_eq]
  exact lt_startOf_add h.pos

theorem endsAt_of_bucketEnd {time : Word} (h : g.bucketEnd time = .ok last) :
    EndsAt g.width g.offset time last := by
  refine ⟨g.width_toInt_pos, ?_, toInt_of_bucketEnd h⟩
  rcases halign : g.align time with fault | start
  · rw [bucketEnd, halign] at h
    cases h
  · rw [← align_eq_ok_iff.mp halign]
    exact Word.least_le_toInt start

/-- Grids of a width and an offset with a property, as layers over what their samples contribute.  A
bucket is known by its end. -/
def layer (P : Word → Word → Prop) : Layer Grid (fun v : Timed => v) (fun _ => false) Word where
  takes last v := v.time < last
  Enters v last := ∃ width offset, P width offset ∧ EndsAt width offset v.time last
  Unread g values := g.phase = .unread ∧ g.feed.readFaults = [] ∧ Increasing g.feed.remaining ∧
    valuesOf g.counter g.feed.remaining = values ∧ P g.width g.offset
  Holds g values last := Ahead g values ∧ P g.width g.offset ∧ g.boundary = last

/-- A grid that was just made has read nothing yet. -/
theorem unread_of_make {samples : List Sample} {width offset : Word} {counter : Option Counter}
    (h : make (.ofSamples samples) width offset counter = .ok g) (hinc : Increasing samples)
    (hP : P width offset) : (layer P).Unread g (valuesOf counter samples) := by
  rw [make] at h
  split at h
  · cases h
    exact ⟨rfl, rfl, hinc, rfl, hP⟩
  · cases h

/-- Opening the bucket of the first value ahead moves the boundary to its end. -/
theorem openBucket_ok (h : Ahead g values) (hopen : openBucket g = .ok () g') :
    ∃ last, g' = { g with boundary := last } ∧
      ∀ v ∈ values.head?, EndsAt g.width g.offset v.time last := by
  rcases values with _ | ⟨v, values⟩
  · rw [openBucket, h.phase_nil] at hopen
    exact ⟨g.boundary, (EStateM.Result.ok.inj hopen).2.symm,
      fun v hv => absurd hv (Option.not_mem_none v)⟩
  · obtain ⟨s, hphase, htime⟩ := h.phase_cons
    rcases hend : g.bucketEnd s.time with fault | last
    · rw [openBucket_of_error hphase hend] at hopen
      cases hopen
    · rw [openBucket_of_ok hphase hend] at hopen
      refine ⟨last, (EStateM.Result.ok.inj hopen).2.symm, fun w hw => ?_⟩
      rw [List.head?_cons, Option.mem_some_iff] at hw
      rw [← hw, ← htime]
      exact endsAt_of_bucketEnd hend

/-- A bucket of the first value ahead is open once the boundary is moved to its end. -/
theorem opens_of_openBucket (h : Ahead g values) (hP : P g.width g.offset)
    (hopen : openBucket g = .ok () g') : (layer P).Opens g' values := by
  obtain ⟨last, rfl, hlast⟩ := openBucket_ok h hopen
  rw [Layer.Opens, dropWhile_never]
  exact ⟨last, ⟨h.setEnd last, hP, rfl⟩, fun v hv => ⟨g.width, g.offset, hP, hlast v hv⟩⟩

theorem lawful : (layer P).Lawful where
  takes_of_enters := fun ⟨_, _, _, hends⟩ => decide_eq_true hends.lt
  live_of_takes _ := rfl
  length_le {g values} h := by
    rcases h with ⟨hphase, -, -, rfl, -⟩ | ⟨b, hahead, -, -⟩
    · show _ ≤ pending g
      rw [pending, hphase, Feed.left_eq]
      exact length_valuesOf_le _ _
    · exact hahead.length_le
  hasValue := by
    rintro g g' values last more ⟨hahead, -, rfl⟩ hrun
    obtain ⟨hmore, hsame⟩ := EStateM.Result.ok.inj (hrun.symm.trans (hasValue_of_ahead hahead))
    exact ⟨hmore, hsame⟩
  hasValue_of_unread := by
    rintro g g' values more ⟨hphase, hf, hinc, rfl, hP⟩ hrun
    have hbegun := begun_of_started g
    have hfill := fill_of_reliable hf hphase
    obtain ⟨_, g₁, hopen, hrest⟩ := of_bind_ok (show (fill >>= _) g = _ from hrun)
    rw [hfill] at hopen
    have hopens := opens_of_openBucket (P := P) (ahead_started hf hinc) hP hopen
    obtain ⟨last, ⟨hahead, -, -⟩, -⟩ := id hopens
    obtain ⟨hmore, rfl⟩ := EStateM.Result.ok.inj hrest
    refine ⟨hopens, ?_⟩
    show hasValue g₁ = _
    rw [hasValue, bind_of_ok (fill_of_begun hahead.begun), get_bind, ← hmore]
    rfl
  nextValue := by
    rintro g g' v rest last value ⟨hahead, hP, rfl⟩ htakes hrun
    obtain ⟨hnext, hahead'⟩ := nextValue_of_ahead hahead (of_decide_eq_true htakes)
    rcases hclocks : g.clocksNext with _ | _
    · rw [hclocks] at hnext
      cases hrun.symm.trans hnext
    · rw [hclocks] at hnext
      obtain ⟨rfl, rfl⟩ := EStateM.Result.ok.inj (hrun.symm.trans hnext)
      exact ⟨rfl, hahead', hP, rfl⟩
  openNext := by
    rintro g g' values (⟨hphase, hf, hinc, rfl, hP⟩ | ⟨last, hahead, hP, -⟩) hrun
    · rcases openNext_of_readAhead g with ⟨g₁, hread, hopen⟩ | ⟨fault, -, -, hopen⟩
      · rw [hread.eq_of_unread hphase] at hopen
        exact opens_of_openBucket (ahead_started hf hinc) hP (hopen.symm.trans hrun)
      · cases hopen.symm.trans hrun
    · have hopen : openNext g = openBucket g := bind_of_ok (fill_of_begun hahead.begun)
      exact opens_of_openBucket hahead hP (hopen.symm.trans hrun)

/-- Below a calendar, a grid takes whatever comes before the end of the unit. -/
theorem pinned : (layer fun _ _ => True).Pinned fun last _ => last where
  toLawful := lawful
  pendingTime := by
    rintro g v rest last ⟨hahead, -, -⟩
    obtain ⟨s, hphase, htime⟩ := hahead.phase_cons
    show g.phase.held?.map Sample.time = _
    rw [hphase, ← htime]
    rfl
  setWidth := by
    rintro g values last width ⟨hahead, -, rfl⟩
    show Ahead (g.setWidth width) values ∧ True ∧ (g.setWidth width).boundary = g.boundary
    rw [Grid.setWidth]
    split
    · exact ⟨⟨hahead.reliable, hahead.begun, hahead.increasing, hahead.followed, hahead.ahead⟩,
        trivial, rfl⟩
    · exact ⟨hahead, trivial, rfl⟩
  setEnd last h := ⟨h.1.setEnd last, trivial, rfl⟩
  takes_withEnd _ hlt := decide_eq_true hlt

/-- The start of the bucket of a grid that ends at a time. -/
def startOfEnd (width offset last : Word) : Word :=
  Int64.ofInt (startOf width.toInt offset.toInt (last.toInt - width.toInt))

theorem toInt_startOfEnd {width offset time : Word} (h : EndsAt width offset time last) :
    (startOfEnd width offset last).toInt = startOf width.toInt offset.toInt time.toInt := by
  have hback : last.toInt - width.toInt = startOf width.toInt offset.toInt time.toInt := by
    rw [h.last_eq]
    omega
  have hle : startOf width.toInt offset.toInt time.toInt ≤ time.toInt := startOf_le h.pos
  rw [startOfEnd, hback, startOf_startOf h.pos]
  exact Word.toInt_ofInt ⟨h.least_le, Int.le_trans hle (Word.toInt_le_greatest time)⟩

/-- A bucket at or behind the end of another one starts later. -/
theorem startOfEnd_lt {width offset time time' last' : Word} (h : EndsAt width offset time last)
    (h' : EndsAt width offset time' last') (hle : last ≤ time') :
    startOfEnd width offset last < startOfEnd width offset last' := by
  rw [Int64.lt_iff_toInt_lt, toInt_startOfEnd h, toInt_startOfEnd h']
  rw [Int64.le_iff_toInt_le, h.last_eq] at hle
  have hstart : startOf width.toInt offset.toInt time.toInt + width.toInt
      ≤ startOf width.toInt offset.toInt time'.toInt := add_le_startOf h.pos hle
  have hpos := h.pos
  omega

/-- A grid that nothing lies above stands at the starts of its buckets. -/
theorem dated (width offset : Word) :
    (layer fun w o => w = width ∧ o = offset).Dated (startOfEnd width offset) where
  toLawful := lawful
  bucketTime := by
    rintro g values last time ⟨-, ⟨rfl, rfl⟩, rfl⟩ htime
    rcases hback : Word.ofInt? (g.boundary.toInt - g.width.toInt) with _ | back
    · have hrun : g.bucketTime = .error (.outOfRange g.boundary) := by rw [bucketTime, hback]
      cases hrun.symm.trans htime
    · have hrun : g.bucketTime = g.align back := by rw [bucketTime, hback]
      have halign := align_eq_ok_iff.mp (hrun.symm.trans htime)
      rw [startOfEnd, ← Word.ofInt?_eq_some_iff.mp hback, ← halign, Int64.ofInt_toInt]

end Grid

/-! ### Runs -/

namespace Runs

variable {counter : Option Counter}

/-- What a pair contributes to a run, at the time of its first sample. -/
def timed (counter : Option Counter) (pair : Pair) : Timed :=
  ⟨pair.previous.time, amount counter pair⟩

/-- Runs as layers over the pairs of neighbouring samples.  A run is known by its start. -/
def layer (counter : Option Counter) : Layer Runs (timed counter) (isIdle counter) Word where
  takes _ pair := isLive counter pair
  Enters pair start := isLive counter pair = true ∧ start = pair.previous.time
  Unread r items := r.phase = .unread ∧ r.feed.readFaults = [] ∧ Increasing r.feed.remaining ∧
    r.counter = counter ∧ pairs r.feed.remaining = items
  Holds r items start := Holds counter r items ∧ r.start = start

theorem filter_not_isIdle (items : List Pair) :
    items.filter (!isIdle counter ·) = items.filter (isLive counter) := by
  simp [isIdle]

/-- Runs that were just made have read nothing yet. -/
theorem unread_of_make {samples : List Sample} (hinc : Increasing samples) :
    (layer counter).Unread (make (.ofSamples samples) counter) (pairs samples) :=
  ⟨rfl, rfl, hinc, rfl, rfl⟩

theorem opens_of_holds {r : Runs} {items : List Pair}
    (h : Holds counter r (items.dropWhile (isIdle counter)))
    (hstart : ∀ pair ∈ (items.dropWhile (isIdle counter)).head?, r.start = pair.previous.time) :
    (layer counter).Opens r items := by
  refine ⟨r.start, ⟨h, rfl⟩, fun pair hpair => ⟨?_, hstart pair hpair⟩⟩
  have hnot := List.head?_dropWhile_not (isIdle counter) items
  rw [Option.mem_def.mp hpair] at hnot
  simpa [isIdle] using hnot

/-- If a cursor says whether it has a value, the first pair ahead decides. -/
theorem hasValue_ok {r r' : Runs} {items : List Pair} {more : Bool} (h : Holds counter r items)
    (hrun : hasValue r = .ok more r') : more = items.head?.any (isLive counter) ∧ r' = r := by
  have hclocked : ∀ pair ∈ items.head?, pair.clocked counter = true := by
    rcases items with _ | ⟨pair, rest⟩
    · intro pair hpair
      cases hpair
    · intro pair' hpair
      obtain rfl := Option.mem_some_iff.mp hpair
      rcases hclocked : pair.clocked counter with _ | _
      · rw [← h.counts] at hclocked
        cases hrun.symm.trans (hasValue_of_not_clocked h.phase_cons.1 hclocked)
      · rfl
  obtain ⟨hmore, hsame⟩ := EStateM.Result.ok.inj (hrun.symm.trans (hasValue_of_holds h hclocked))
  exact ⟨hmore, hsame⟩

theorem lawful : (layer counter).Lawful where
  takes_of_enters h := h.1
  live_of_takes {pair _} h := by
    rw [isIdle, show isLive counter pair = true from h]
    rfl
  length_le {r items} h := by
    rcases h with ⟨hphase, -, -, -, rfl⟩ | ⟨start, hholds, -⟩
    · show _ ≤ pending r
      rw [pending, hphase, Feed.left_eq, length_pairs]
      exact Nat.sub_le _ _
    · exact hholds.length_le
  hasValue := fun ⟨hholds, _⟩ hrun => hasValue_ok hholds hrun
  hasValue_of_unread := by
    rintro r r' items more ⟨hphase, hf, hinc, rfl, rfl⟩ hrun
    obtain ⟨_, r₁, hfill, hrest⟩ := of_bind_ok (show (fill >>= _) r = _ from hrun)
    obtain ⟨hholds, hstart⟩ := (hfill ▸ fill_of_unread hphase hf hinc).of_ok
    have hagain : hasValue r₁ = .ok more r' :=
      (bind_of_ok (fill_of_begun hholds.begun)).trans hrest
    obtain ⟨-, rfl⟩ := hasValue_ok hholds hagain
    exact ⟨opens_of_holds hholds hstart, hagain⟩
  nextValue := by
    rintro r r' pair rest start value ⟨hholds, rfl⟩ hlive hrun
    rcases hclocked : pair.clocked counter with _ | _
    · rw [← hholds.counts] at hclocked
      have hnext := nextValue_of_not_clocked hholds.phase_cons.1 hclocked
      cases (show nextValue r = _ from hrun).symm.trans hnext
    · obtain ⟨r₁, hnext, hholds', hstart⟩ := nextValue_of_holds hholds hclocked hlive
      obtain ⟨rfl, rfl⟩ := EStateM.Result.ok.inj (hrun.symm.trans hnext)
      exact ⟨rfl, hholds', hstart⟩
  openNext := by
    rintro r r' items (⟨hphase, hf, hinc, rfl, rfl⟩ | ⟨start, hholds, -⟩) hrun
    · obtain ⟨_, r₁, hfill, hskip⟩ := of_bind_ok (show (fill >>= _) r = _ from hrun)
      obtain ⟨hholds, -⟩ := (hfill ▸ fill_of_unread hphase hf hinc).of_ok
      obtain ⟨hholds', hstart⟩ := (hskip ▸ skipIdle_of_holds hholds).of_ok
      rw [List.dropWhile_idempotent] at hholds' hstart
      exact opens_of_holds hholds' hstart
    · have hskip : skipIdle r = .ok () r' :=
        (bind_of_ok (fill_of_begun hholds.begun)).symm.trans hrun
      obtain ⟨hholds', hstart⟩ := (hskip ▸ skipIdle_of_holds hholds).of_ok
      exact opens_of_holds hholds' hstart

/-- Below a calendar, a run goes on as it does alone. -/
theorem pinned : (layer counter).Pinned fun _ start => start where
  toLawful := lawful
  pendingTime := by
    rintro r pair rest start ⟨hholds, -⟩
    show r.phase.held?.map _ = _
    rw [hholds.phase_cons.1]
    rfl
  setWidth _ h := h
  setEnd _ h := h
  takes_withEnd h _ := h.1

theorem dated : (layer counter).Dated fun start => start where
  toLawful := lawful
  bucketTime := by
    rintro r items start time ⟨-, rfl⟩ htime
    exact (Except.ok.inj htime).symm

end Runs

/-! ### Calendars -/

namespace CalendarCursor

variable {σ α β : Type} {timed : α → Timed} {idle : α → Bool} {u : CalendarUnit}
  {L : Layer σ timed idle β} {withEnd : Word → β → β} {c c' : CalendarCursor σ} {items : List α}

/-- The start of the unit of UTC that ends at an instant, found backwards from it. -/
def startBefore (u : CalendarUnit) (last : Word) : Word :=
  timeOf Zone.utc ((u.key Zone.utc last).bind u.previous?)

theorem startBefore_of_unitAt {t first last : Word} {start next : Date}
    (h : u.UnitAt Zone.utc t start next first last) : startBefore u last = first := by
  have hdate := Zone.localDate?_of_localMidnight? h.last_eq
  rw [startBefore, CalendarUnit.key, hdate, Option.map_some, CalendarUnit.start_next h.next_eq,
    Option.bind_some, h.previous_eq, timeOf, Option.bind_some, h.first_eq]
  rfl

/-- In UTC the unit around a time is that of the time. -/
theorem unitAt_of_unitAround {time last : Word} {start : Date} (hzone : c.zone = Zone.utc)
    (h : c.unitAround time = .ok (start, last)) :
    ∃ next first, c.unit.UnitAt Zone.utc time start next first last := by
  obtain ⟨date, next, hdate, rfl, hnext, hlast⟩ := of_unitAround h
  rw [hzone] at hdate hlast
  have hcovers : c.unit.Covers Zone.utc time :=
    ⟨date, next, hdate, hnext, Zone.utc_divides _, Zone.utc_divides _⟩
  obtain ⟨start', next', first, last', hat⟩ := hcovers.exists_unitAt
  have hkey := hat.key_eq
  rw [CalendarUnit.key, hdate, Option.map_some, Option.some_inj] at hkey
  subst hkey
  obtain rfl := Option.some.inj (hnext.symm.trans hat.next_eq)
  obtain rfl := Option.some.inj (hlast.symm.trans hat.last_eq)
  exact ⟨next, first, hat⟩

/-- Calendars of UTC above a layer.  A bucket is known by the end of its unit and the bucket below,
and takes what comes before the one and belongs to the other. -/
def layer (u : CalendarUnit) (withEnd : Word → β → β) (L : Layer σ timed idle β) :
    Layer (CalendarCursor σ) timed idle (Word × β) where
  takes b a := L.takes b.2 a && decide ((timed a).time < b.1)
  Enters a b := ∃ inner start next first, L.Enters a inner ∧ b.2 = withEnd b.1 inner ∧
    u.UnitAt Zone.utc (timed a).time start next first b.1
  Unread c items := c.unit = u ∧ c.zone = Zone.utc ∧ c.phase = .unread ∧ L.Unread c.inner items
  Holds c items b := c.unit = u ∧ c.zone = Zone.utc ∧
    (c.phase = .ready b.1 ∧ L.Holds c.inner items b.2 ∨ c.phase = .spent ∧ items = [])

theorem phase_begun_of_holds {b : Word × β} (h : (layer u withEnd L).Holds c items b) :
    c.phase ≠ .unread := by
  rcases h.2.2 with ⟨hphase, -⟩ | ⟨hphase, -⟩
  · rw [hphase]
    exact Phase.ready_ne_unread _
  · rw [hphase]
    exact Phase.spent_ne_unread

variable [BucketCursor σ]

/-- Opening a unit opens that of the first item that is not idle. -/
theorem opens_of_openUnit (h : L.Pinned withEnd) (hunit : c.unit = u) (hzone : c.zone = Zone.utc)
    (hc : L.Unread c.inner items ∨ ∃ b, L.Holds c.inner items b)
    (hopen : openUnit c = .ok () c') : (layer u withEnd L).Opens c' items := by
  obtain ⟨_, c₁, hnext, hrest⟩ := of_bind_ok hopen
  obtain ⟨g, hinner, rfl⟩ := of_below_ok hnext
  obtain ⟨b, hg, henters⟩ := h.openNext hc hinner
  obtain ⟨more, c₂, hmore, hrest⟩ := of_bind_ok hrest
  obtain ⟨g', hasked, rfl⟩ := of_below_ok hmore
  obtain ⟨rfl, rfl⟩ := h.hasValue hg hasked
  rw [get_bind] at hrest
  rcases hitems : items.dropWhile idle with _ | ⟨a, rest⟩
  · rw [hitems] at hrest
    obtain ⟨-, rfl⟩ := EStateM.Result.ok.inj hrest
    refine ⟨(0, b), ⟨hunit, hzone, Or.inr ⟨rfl, hitems⟩⟩, fun a ha => ?_⟩
    rw [hitems] at ha
    exact absurd ha (Option.not_mem_none a)
  · rw [hitems] at hg henters hrest
    have hentered := henters a rfl
    rw [List.head?_cons, Option.any_some, h.takes_of_enters hentered] at hrest
    simp only [if_true, h.pendingTime hg] at hrest
    rcases haround : unitAround { c with inner := g' } (timed a).time with fault | ⟨start, last⟩
    · rw [haround] at hrest
      cases hrest
    · rw [haround] at hrest
      obtain ⟨-, rfl⟩ := EStateM.Result.ok.inj hrest
      obtain ⟨next, first, hat⟩ := unitAt_of_unitAround (c := { c with inner := g' }) hzone haround
      refine ⟨(last, withEnd last b), ⟨hunit, hzone, Or.inl ⟨rfl, ?_⟩⟩, fun a' ha' => ?_⟩
      · rw [hitems, pin]
        refine h.setEnd last ?_
        rcases c.unit.width? start with _ | width
        · exact hg
        · exact h.setWidth width hg
      · rw [hitems, List.head?_cons, Option.mem_some_iff] at ha'
        subst ha'
        exact ⟨b, start, next, first, hentered, rfl, hunit ▸ hat⟩

/-- A calendar asks the cursor below, and then whether the value is in the unit. -/
theorem hasValue_of_holds (h : L.Pinned withEnd) {items : List α} {b : Word × β} {more : Bool}
    (hc : (layer u withEnd L).Holds c items b) (hrun : hasValue c = .ok more c') :
    more = items.head?.any ((layer u withEnd L).takes b) ∧ c' = c := by
  rw [hasValue, bind_of_ok (fill_of_begun (phase_begun_of_holds hc)), get_bind] at hrun
  rcases hc.2.2 with ⟨hphase, hinner⟩ | ⟨hphase, rfl⟩
  · rw [hphase] at hrun
    obtain ⟨below?, c₁, hbelow, hrest⟩ := of_bind_ok hrun
    obtain ⟨g, hasked, rfl⟩ := of_below_ok hbelow
    obtain ⟨rfl, rfl⟩ := h.hasValue hinner hasked
    rcases items with _ | ⟨a, rest⟩
    · obtain ⟨rfl, rfl⟩ := EStateM.Result.ok.inj hrest
      exact ⟨rfl, rfl⟩
    · have hpending := h.pendingTime hinner
      rw [List.head?_cons, Option.any_some] at hrest ⊢
      show more = (L.takes b.2 a && decide ((timed a).time < b.1)) ∧ c' = c
      rcases htakes : L.takes b.2 a with _ | _
      · rw [htakes] at hrest
        obtain ⟨rfl, rfl⟩ := EStateM.Result.ok.inj hrest
        exact ⟨rfl, rfl⟩
      · rw [htakes, if_pos rfl, get_bind, hpending] at hrest
        obtain ⟨rfl, rfl⟩ := EStateM.Result.ok.inj hrest
        exact ⟨rfl, rfl⟩
  · rw [hphase] at hrun
    obtain ⟨rfl, rfl⟩ := EStateM.Result.ok.inj hrun
    exact ⟨rfl, rfl⟩

/-- What is said of a layer holds of calendars above it as well. -/
theorem lawful (h : L.Pinned withEnd) : (layer u withEnd L).Lawful where
  takes_of_enters := by
    rintro a b ⟨inner, start, next, first, henters, hpinned, hat⟩
    show (L.takes b.2 a && decide ((timed a).time < b.1)) = true
    rw [hpinned, h.takes_withEnd henters hat.mem.2, decide_eq_true hat.mem.2]
    rfl
  live_of_takes := fun htakes => h.live_of_takes (Bool.and_eq_true_iff.mp htakes).1
  length_le := by
    rintro c items (⟨-, -, -, hinner⟩ | ⟨b, -, -, ⟨-, hinner⟩ | ⟨-, rfl⟩⟩)
    · exact h.length_le (Or.inl hinner)
    · exact h.length_le (Or.inr ⟨b.2, hinner⟩)
    · exact Nat.zero_le _
  hasValue hc hrun := hasValue_of_holds h hc hrun
  hasValue_of_unread := by
    rintro c c' items more ⟨hunit, hzone, hphase, hinner⟩ hrun
    obtain ⟨_, c₁, hfill, hrest⟩ := of_bind_ok (show (fill >>= _) c = _ from hrun)
    have hopen : openUnit c = .ok () c₁ := by
      rw [fill, get_bind, hphase] at hfill
      exact hfill
    have hopens := opens_of_openUnit h hunit hzone (Or.inl hinner) hopen
    obtain ⟨b, hc₁, -⟩ := id hopens
    have hagain : hasValue c₁ = .ok more c' := by
      rw [hasValue, bind_of_ok (fill_of_begun (phase_begun_of_holds hc₁))]
      exact hrest
    obtain ⟨-, rfl⟩ := hasValue_of_holds h hc₁ hagain
    exact ⟨hopens, hagain⟩
  nextValue := by
    rintro c c' a rest b value hc htakes hrun
    obtain ⟨more, c₁, hmore, hvalue⟩ := of_bind_ok (show (hasValue >>= _) c = _ from hrun)
    obtain ⟨rfl, rfl⟩ := hasValue_of_holds h hc hmore
    rw [List.head?_cons, Option.any_some, htakes, if_pos rfl] at hvalue
    obtain ⟨hunit, hzone, ⟨hphase, hinner⟩ | ⟨-, hnil⟩⟩ := hc
    · obtain ⟨g, hnext, rfl⟩ := of_below_ok hvalue
      obtain ⟨rfl, hg⟩ := h.nextValue hinner (Bool.and_eq_true_iff.mp htakes).1 hnext
      exact ⟨rfl, hunit, hzone, Or.inl ⟨hphase, hg⟩⟩
    · exact absurd hnil (List.cons_ne_nil a rest)
  openNext := by
    rintro c c' items (⟨hunit, hzone, hphase, hinner⟩ | ⟨b, hunit, hzone, hcase⟩) hrun
    · have hopen : openNext c = openUnit c := by rw [openNext, get_bind, hphase]
      exact opens_of_openUnit h hunit hzone (Or.inl hinner) (hopen.symm.trans hrun)
    · rcases hcase with ⟨hphase, hinner⟩ | ⟨hphase, rfl⟩
      · have hopen : openNext c = openUnit c := by rw [openNext, get_bind, hphase]
        exact opens_of_openUnit h hunit hzone (Or.inr ⟨b.2, hinner⟩) (hopen.symm.trans hrun)
      · have hopen : openNext c = .ok () c := by
          rw [openNext, get_bind, hphase]
          rfl
        obtain ⟨-, rfl⟩ := EStateM.Result.ok.inj (hopen.symm.trans hrun)
        exact ⟨b, ⟨hunit, hzone, Or.inr ⟨hphase, rfl⟩⟩, fun a ha =>
          absurd ha (Option.not_mem_none a)⟩

/-- A calendar above a calendar keeps its own ends. -/
theorem pinned (h : L.Pinned withEnd) : (layer u withEnd L).Pinned fun _ b => b where
  toLawful := lawful h
  pendingTime := by
    rintro c a rest b ⟨-, -, ⟨-, hinner⟩ | ⟨-, hnil⟩⟩
    · exact h.pendingTime hinner
    · exact absurd hnil (List.cons_ne_nil a rest)
  setWidth _ hc := hc
  setEnd _ hc := hc
  takes_withEnd henters _ := (lawful h).takes_of_enters henters

/-- A unit stands at the start of the unit before the one that starts at its end. -/
theorem of_bucketTime {last time : Word} (hphase : c.phase = .ready last)
    (h : c.bucketTime = .ok time) :
    ∃ date start, c.zone.localDate? last = some date ∧
      c.unit.previous? (c.unit.start date) = some start ∧
      c.zone.localMidnight? start = some time := by
  rcases hdate : c.zone.localDate? last with _ | date
  · simp [bucketTime, hphase, unitStart, hdate, orOutOfRange, bind, Except.bind] at h
  · rcases hprevious : c.unit.previous? (c.unit.start date) with _ | start
    · simp [bucketTime, hphase, unitStart, hdate, hprevious, orOutOfRange, bind, Except.bind, pure,
        Except.pure] at h
    · rcases hstart : c.zone.localMidnight? start with _ | first
      · simp [bucketTime, hphase, unitStart, hdate, hprevious, hstart, orOutOfRange, bind,
          Except.bind, pure, Except.pure] at h
      · simp [bucketTime, hphase, unitStart, hdate, hprevious, hstart, orOutOfRange, bind,
          Except.bind, pure, Except.pure] at h
        exact ⟨date, start, rfl, hprevious, h ▸ hstart⟩

/-- A calendar stands at the starts of its units. -/
theorem dated (h : L.Pinned withEnd) : (layer u withEnd L).Dated fun b => startBefore u b.1 where
  toLawful := lawful h
  bucketTime := by
    rintro c items b time ⟨rfl, hzone, hcase⟩ htime
    have hready : c.phase = .ready b.1 := by
      rcases hcase with ⟨hphase, -⟩ | ⟨hphase, -⟩
      · exact hphase
      · have hrun : c.bucketTime = .error (.noValue c.text) := by rw [bucketTime, hphase]
        cases hrun.symm.trans htime
    obtain ⟨date, start, hdate, hprevious, hstart⟩ := of_bucketTime hready htime
    rw [hzone] at hdate hstart
    rw [startBefore, CalendarUnit.key, hdate, Option.map_some, Option.bind_some, hprevious, timeOf,
      Option.bind_some, hstart]
    rfl

end CalendarCursor

end TimeBuckets
