/-
Cursors that walk along a list.

* `takeValues_of_items` — taking all values of a bucket takes the items in front that belong to it;
* `Walk` — a cursor seen as a list of items that are ahead and a bucket that is open, with what
  each operation does to the two;
* `Resampler.Gives`, `CursorGives` — draining gives exactly these points and comes to its end;
* `Walk.gives`, `Walk.cursor_gives` — draining a walk gives the statistics of the stretches into
  which `cut` cuts its items.

The loops over values and over buckets are treated here once.  What remains for each kind of
cursor is what a single operation does.
-/
import TimeBuckets.Proofs.Groups
import TimeBuckets.Proofs.Operation

namespace TimeBuckets

/-- A stream with items ahead of which it gives the values of those in front that pass a test: taking
all values leaves the items from the first one on that does not pass. -/
theorem takeValues_of_items {σ α : Type} [ValueStream σ] {H : σ → List α → Prop}
    {takes : α → Bool} {value : α → Float}
    (hhas : ∀ {c : σ} {items : List α}, H c items →
      ValueStream.hasValue c = .ok (items.head?.any takes) c)
    (hnext : ∀ {c : σ} {a : α} {rest : List α}, H c (a :: rest) → takes a = true →
      ∃ c', ValueStream.nextValue c = .ok (value a) c' ∧ H c' rest) :
    ∀ {items : List α} {c : σ} {n : Nat}, H c items → items.length ≤ n → ∃ c',
      takeValues n c = .ok ((items.takeWhile takes).map value) c' ∧
        H c' (items.dropWhile takes) := by
  intro items
  induction items with
  | nil =>
    intro c n h hn
    refine ⟨c, ?_, h⟩
    rcases n with _ | n
    · rfl
    · rw [takeValues, bind_of_ok (hhas h)]
      rfl
  | cons a rest ih =>
    intro c n h hn
    rw [List.length_cons] at hn
    obtain ⟨n, rfl⟩ : ∃ m, n = m + 1 := ⟨n - 1, by omega⟩
    have hmore := hhas h
    rw [List.head?_cons, Option.any_some] at hmore
    by_cases ha : takes a = true
    -- the first item is taken and it goes on, or it ends here
    · obtain ⟨c₁, hvalue, hrest⟩ := hnext h ha
      obtain ⟨c', htake, hlast⟩ := ih hrest (n := n) (by omega)
      refine ⟨c', ?_, ?_⟩
      · rw [takeValues, bind_of_ok hmore, ha, if_pos rfl, bind_of_ok hvalue, bind_of_ok htake,
          List.takeWhile_cons_of_pos ha, List.map_cons]
        rfl
      · rwa [List.dropWhile_cons_of_pos ha]
    · refine ⟨c, ?_, ?_⟩
      · rw [takeValues, bind_of_ok hmore, if_neg ha, List.takeWhile_cons_of_neg ha]
        rfl
      · rwa [List.dropWhile_cons_of_neg ha]

section Buckets

variable {σ α β : Type} [BucketCursor σ]

/-- Draining the cursor gives exactly these points and comes to its end without a fault. -/
def CursorGives (s : Statistic) (c : σ) (points : List Point) : Prop :=
  ∃ c', drainBuckets s c = (⟨points, none⟩, c') ∧ nextBucket s c' = .ok none c'

/-- Draining the resampler gives exactly these points and comes to its end without a fault. -/
def Resampler.Gives (r : Resampler σ) (points : List Point) : Prop :=
  ∃ r', r.drainAll = (⟨points, none⟩, r') ∧ r'.next? = .ok none r'

/-- A cursor seen as the items ahead of it and the bucket that is open. -/
structure Walk (σ α β : Type) [BucketCursor σ] where
  /-- Whether an item lies between buckets. -/
  idle : α → Bool
  /-- The bucket that an item opens. -/
  enter : α → β
  /-- Whether a bucket takes an item that is next. -/
  takes : β → α → Bool
  /-- The value of an item. -/
  value : α → Float
  /-- The time that stands for a bucket. -/
  time : β → Word
  /-- The cursor has these items ahead, and this bucket open if there is one. -/
  Holds : σ → List α → Option β → Prop
  takes_enter {c : σ} {a : α} {rest : List α} :
    Holds c (a :: rest) (some (enter a)) → idle a = false → takes (enter a) a = true
  length_le {c : σ} {items : List α} {b : Option β} :
    Holds c items b → items.length ≤ ValueStream.pending c
  hasValue_open {c : σ} {items : List α} {b : β} :
    Holds c items (some b) → ValueStream.hasValue c = .ok (items.head?.any (takes b)) c
  hasValue_none {c : σ} {items : List α} :
    Holds c items none → ValueStream.hasValue c = .ok false c
  nextValue {c : σ} {a : α} {rest : List α} {b : β} :
    Holds c (a :: rest) (some b) → takes b a = true →
      ∃ c', ValueStream.nextValue c = .ok (value a) c' ∧ Holds c' rest (some b)
  bucketTime {c : σ} {items : List α} {b : β} :
    Holds c items (some b) → BucketCursor.bucketTime c = .ok (time b)
  openNext {c : σ} {items : List α} {b : β} :
    Holds c items (some b) → items.head?.any (takes b) = false →
      ∃ c', BucketCursor.openNext c = .ok () c' ∧
        Holds c' (items.dropWhile idle) ((items.dropWhile idle).head?.map enter)

namespace Walk

variable (W : Walk σ α β)

/-- The stretches of items that make one bucket each. -/
def stretches (items : List α) : List (α × List α) :=
  cut W.idle (fun a => W.takes (W.enter a)) items

/-- The point of a stretch. -/
def point (s : Statistic) (stretch : α × List α) : Point :=
  ⟨W.time (W.enter stretch.1), s.ofNonempty (W.value stretch.1) (stretch.2.map W.value)⟩

/-- The cursor is about to open the first bucket of these items, or is at its start. -/
def Starts (c : σ) (items : List α) : Prop :=
  ∃ c', ValueStream.hasValue c = .ok (!(items.dropWhile W.idle).isEmpty) c' ∧
    W.Holds c' (items.dropWhile W.idle) ((items.dropWhile W.idle).head?.map W.enter)

variable {W}

/-! ### One bucket -/

theorem hasValue_entered {c : σ} {items : List α}
    (h : W.Holds c (items.dropWhile W.idle) ((items.dropWhile W.idle).head?.map W.enter)) :
    ValueStream.hasValue c = .ok (!(items.dropWhile W.idle).isEmpty) c := by
  rcases hitems : items.dropWhile W.idle with _ | ⟨a, rest⟩
  · rw [hitems] at h
    exact W.hasValue_none h
  · rw [hitems] at h
    have hidle : W.idle a = false := by
      have hhead := List.head?_dropWhile_not W.idle items
      rwa [hitems] at hhead
    rw [W.hasValue_open h, List.head?_cons, Option.any_some, W.takes_enter h hidle]
    rfl

theorem takeValues_eq {b : β} {items : List α} {c : σ} {n : Nat} (h : W.Holds c items (some b))
    (hn : items.length ≤ n) : ∃ c',
      takeValues n c = .ok ((items.takeWhile (W.takes b)).map W.value) c' ∧
        W.Holds c' (items.dropWhile (W.takes b)) (some b) :=
  takeValues_of_items (H := (W.Holds · · (some b))) W.hasValue_open W.nextValue h hn

/-- A cursor starts a walk if it answers like one that has opened the first bucket. -/
theorem Starts.of_hasValue {c c' : σ} {items : List α}
    (h : W.Holds c' (items.dropWhile W.idle) ((items.dropWhile W.idle).head?.map W.enter))
    (hsame : ValueStream.hasValue c = ValueStream.hasValue c') : W.Starts c items :=
  ⟨c', hsame.trans (hasValue_entered h), h⟩

/-- If no item lies between buckets, the first bucket is that of the first item. -/
theorem Starts.of_never_idle {c c' : σ} {items : List α} (hidle : W.idle = fun _ => false)
    (h : W.Holds c' items (items.head?.map W.enter))
    (hsame : ValueStream.hasValue c = ValueStream.hasValue c') : W.Starts c items := by
  refine Starts.of_hasValue ?_ hsame
  rwa [hidle, dropWhile_never]

/-- Taking a bucket gives the point of its stretch and opens the bucket behind it. -/
theorem takeBucket_eq {s : Statistic} {c : σ} {a : α} {rest : List α}
    (h : W.Holds c (a :: rest) (some (W.enter a))) (ha : W.idle a = false) :
    ∃ c', takeBucket s c
        = .ok (W.point s (a, rest.takeWhile (W.takes (W.enter a)))) c' ∧
      W.Starts c' (rest.dropWhile (W.takes (W.enter a))) := by
  have htakes := W.takes_enter h ha
  obtain ⟨c₁, hvalues, h₁⟩ := takeValues_eq h
    (n := ValueStream.pending c + 1) (Nat.le_succ_of_le (W.length_le h))
  rw [List.takeWhile_cons_of_pos htakes, List.map_cons] at hvalues
  rw [List.dropWhile_cons_of_pos htakes] at h₁
  have hsum : summarize s c = .ok (s.ofNonempty (W.value a)
      ((rest.takeWhile (W.takes (W.enter a))).map W.value)) c₁ := by
    rw [summarize, bind_of_ok (show bucketValues c = _ from hvalues)]
    rfl
  have htime : readBucketTime c₁ = .ok (W.time (W.enter a)) c₁ := by
    rw [readBucketTime, W.bucketTime h₁]
  -- the bucket takes nothing of what is left, which is when the next one is opened
  have hover : (rest.dropWhile (W.takes (W.enter a))).head?.any (W.takes (W.enter a)) = false := by
    have hnot := List.head?_dropWhile_not (W.takes (W.enter a)) rest
    rcases hhead : (rest.dropWhile (W.takes (W.enter a))).head? with _ | b
    · rfl
    · rwa [hhead] at hnot
  obtain ⟨c', hopen, h'⟩ := W.openNext h₁ hover
  refine ⟨c', ?_, c', hasValue_entered h', h'⟩
  rw [takeBucket, bind_of_ok hsum, bind_of_ok htime, bind_of_ok hopen]
  rfl

/-- A walk either is at its end or has a bucket to take, and asking twice whether it has one
changes nothing. -/
theorem Starts.step {c : σ} {items : List α} (h : W.Starts c items) (s : Statistic) :
    (∃ c', ValueStream.hasValue c = .ok false c' ∧ ValueStream.hasValue c' = .ok false c' ∧
      W.stretches items = []) ∨
    ∃ stretch rest c' c'', ValueStream.hasValue c = .ok true c' ∧
      ValueStream.hasValue c' = .ok true c' ∧ takeBucket s c' = .ok (W.point s stretch) c'' ∧
      W.Starts c'' rest ∧ rest.length < items.length ∧
      W.stretches items = stretch :: W.stretches rest := by
  obtain ⟨c', hhas, hheld⟩ := h
  have hagain := hasValue_entered hheld
  have hcut : cut W.idle (fun a => W.takes (W.enter a)) (items.dropWhile W.idle)
      = W.stretches items := cut_dropWhile items
  have hlen := (List.dropWhile_sublist W.idle (l := items)).length_le
  have hidle := List.head?_dropWhile_not W.idle items
  rcases hitems : items.dropWhile W.idle with _ | ⟨a, rest⟩
  · rw [hitems] at hhas hagain hcut
    exact Or.inl ⟨c', hhas, hagain, by rw [← hcut, cut_nil]⟩
  · rw [hitems] at hhas hagain hcut hheld hlen hidle
    have ha : W.idle a = false := hidle
    obtain ⟨c'', htake, hstarts⟩ := takeBucket_eq (s := s) hheld ha
    refine Or.inr ⟨_, _, c', c'', hhas, hagain, htake, hstarts, ?_, ?_⟩
    · have hle := (List.dropWhile_sublist (W.takes (W.enter a)) (l := rest)).length_le
      rw [List.length_cons] at hlen
      omega
    · rw [← hcut, cut_of_not_idle ha, stretches]

/-! ### All buckets -/

theorem nextBucket_of_hasValue {s : Statistic} {c c' c'' : σ} {p : Point}
    (hhas : ValueStream.hasValue c = .ok true c') (htake : takeBucket s c' = .ok p c'') :
    nextBucket s c = .ok (some p) c'' := by
  rw [nextBucket, bind_of_ok hhas, if_pos rfl, bind_of_ok htake]
  rfl

theorem nextBucket_of_not_hasValue {s : Statistic} {c c' : σ}
    (hhas : ValueStream.hasValue c = .ok false c') : nextBucket s c = .ok none c' := by
  rw [nextBucket, bind_of_ok hhas, if_neg (by decide)]
  rfl

theorem hasNext_of_ok {r : Resampler σ} {more : Bool} {c : σ}
    (h : ValueStream.hasValue r.cursor = .ok more c) :
    r.hasNext = .ok more { r with cursor := c } :=
  Resampler.onCursor_of_ok h

theorem next?_of_hasValue {r : Resampler σ} {c' c'' : σ} {p : Point}
    (hhas : ValueStream.hasValue r.cursor = .ok true c')
    (hagain : ValueStream.hasValue c' = .ok true c')
    (htake : takeBucket r.statistic c' = .ok p c'') :
    r.next? = .ok (some p) { r with cursor := c'', latest := some p } := by
  -- the resampler asks once more before it takes the bucket
  have hagain' : Resampler.hasNext { r with cursor := c' } = .ok true { r with cursor := c' } :=
    hasNext_of_ok hagain
  have hpoint : Resampler.nextPoint { r with cursor := c' }
      = .ok p { r with cursor := c'', latest := some p } := by
    rw [Resampler.nextPoint, bind_of_ok hagain', if_pos rfl, get_bind,
      bind_of_ok (Resampler.onCursor_of_ok htake)]
    rfl
  rw [Resampler.next?, bind_of_ok (hasNext_of_ok hhas), if_pos rfl, bind_of_ok hpoint]
  rfl

theorem next?_of_not_hasValue {r : Resampler σ} {c' : σ}
    (hhas : ValueStream.hasValue r.cursor = .ok false c') :
    r.next? = .ok none { r with cursor := c' } := by
  rw [Resampler.next?, bind_of_ok (hasNext_of_ok hhas), if_neg (by decide)]
  rfl

/-- Draining by a step that follows a walk gives the points of its stretches: `Ready` says that
the walk is about to open the first bucket of some items. -/
theorem drain_of_ready {τ : Type} {step : EStateM Fault τ (Option Point)} {s : Statistic}
    (Ready : τ → List α → Prop)
    (hstep : ∀ r items, Ready r items →
      (∃ r', step r = .ok none r' ∧ step r' = .ok none r' ∧ W.stretches items = []) ∨
      ∃ stretch rest r', step r = .ok (some (W.point s stretch)) r' ∧ Ready r' rest ∧
        rest.length < items.length ∧ W.stretches items = stretch :: W.stretches rest) :
    ∀ {n : Nat} {items : List α} {r : τ}, Ready r items → items.length < n →
      ∃ r', drain step n r = (⟨(W.stretches items).map (W.point s), none⟩, r') ∧
        step r' = .ok none r' := by
  intro n
  induction n with
  | zero =>
    intro items r _ hn
    exact absurd hn (Nat.not_lt_zero _)
  | succ n ih =>
    intro items r h hn
    rcases hstep r items h with ⟨r', hdone, hend, hnil⟩ | ⟨stretch, rest, r', hpoint, hready, hlt,
      hcons⟩
    · refine ⟨r', ?_, hend⟩
      rw [drain, hdone, hnil, List.map_nil]
    · -- the items that are left are fewer, and so the fuel that is left is enough for them
      obtain ⟨last, hdrain, hend⟩ := ih hready (by omega)
      refine ⟨last, ?_, hend⟩
      rw [drain, hpoint, hcons, List.map_cons]
      simp only [hdrain]

/-- Draining a walk gives the points of its stretches. -/
theorem cursor_gives {s : Statistic} {c : σ} {items : List α} (h : W.Starts c items)
    (hlen : items.length ≤ ValueStream.pending c) :
    CursorGives s c ((W.stretches items).map (W.point s)) := by
  refine drain_of_ready W.Starts (fun c items h => ?_) h (Nat.lt_succ_of_le hlen)
  rcases h.step s with ⟨c', hhas, hagain, hnil⟩ | ⟨stretch, rest, c', c'', hhas, -, htake, hrest,
    hlt, hcons⟩
  · exact Or.inl ⟨c', nextBucket_of_not_hasValue hhas, nextBucket_of_not_hasValue hagain, hnil⟩
  · exact Or.inr ⟨stretch, rest, c'', nextBucket_of_hasValue hhas htake, hrest, hlt, hcons⟩

/-- Draining a resampler over a walk gives the points of its stretches. -/
theorem gives {r : Resampler σ} {items : List α} (h : W.Starts r.cursor items)
    (hlen : items.length ≤ ValueStream.pending r.cursor) :
    r.Gives ((W.stretches items).map (W.point r.statistic)) := by
  refine drain_of_ready (fun r' items => W.Starts r'.cursor items ∧ r'.statistic = r.statistic)
    (fun r' items h => ?_) ⟨h, rfl⟩ (Nat.lt_succ_of_le hlen)
  obtain ⟨h, hs⟩ := h
  rcases h.step r.statistic with ⟨c', hhas, hagain, hnil⟩ | ⟨stretch, rest, c', c'', hhas, hagain,
    htake, hrest, hlt, hcons⟩
  · exact Or.inl ⟨_, next?_of_not_hasValue hhas, next?_of_not_hasValue hagain, hnil⟩
  · rw [← hs] at htake
    rw [← hs]
    exact Or.inr ⟨stretch, rest, _, next?_of_hasValue hhas hagain htake, ⟨hrest, rfl⟩, hlt, hcons⟩

/-- The points of a walk are statistics of groups, if it leaves out no item and its buckets take
exactly the items with the key of the first one. -/
theorem grouped {κ : Type} [DecidableEq κ] {key : α → κ} {time : κ → Option Word}
    {items : List α} (hidle : W.idle = fun _ => false)
    (hkey : items.Pairwise fun a b => W.takes (W.enter a) b = true ↔ key b = key a)
    (hclosed : items.Pairwise fun b c =>
      ∀ a, W.takes (W.enter a) c = true → W.takes (W.enter a) b = true)
    (htime : ∀ a ∈ items, time (key a) = some (W.time (W.enter a)))
    (hstart : items.Pairwise fun a b => key a ≠ key b →
      W.time (W.enter a) < W.time (W.enter b)) (s : Statistic) :
    Grouped s key time W.value items ((W.stretches items).map (W.point s)) := by
  rw [stretches, hidle]
  exact Grouped.of_cut hkey hclosed htime hstart

end Walk

end Buckets

end TimeBuckets
