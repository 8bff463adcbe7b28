/-
Counting up to the first pair that is refused.

* `FirstRefusal` — the first two neighbours that are not in order of time, or between which the time
  cannot be told;
* `Grid.Stands` — a grid that counts, with certain pairs ahead and the bucket of the first one open;
* `Grid.drain_of_leads` — draining gives the buckets that end before the first refused pair is
  reached, and then fails with it;
* `Grid.counts_up_to_refusal` — what a fresh grid gives that counts, for samples of which all
  neighbours are accepted and for others.

The bucket in which the refused pair lies is lost as a whole: its values were taken, but the
statistic over them is never reached.
-/
import TimeBuckets.Proofs.Counting

namespace TimeBuckets

/-! ### Where counting ends -/

/-- Leaving out pairs from a time on changes nothing about those before an earlier time. -/
theorem Pair.whileBefore_filter {items : List Pair} {first last : Word}
    (h : items.Pairwise fun p q => p.previous.time < q.previous.time) (hle : first ≤ last) :
    (items.filter (isBefore last)).takeWhile (isBefore first) = items.takeWhile (isBefore first) ∧
      (items.filter (isBefore last)).dropWhile (isBefore first)
        = (items.dropWhile (isBefore first)).filter (isBefore last) := by
  have hclosed : items.Pairwise fun p q => q.isBefore first = true → p.isBefore first = true :=
    h.imp fun {p q} hpq hq => decide_eq_true (Int64.lt_trans hpq (of_decide_eq_true hq))
  have hboth : ∀ p : Pair, p.isBefore first = true → p.isBefore last = true :=
    fun p hp => decide_eq_true (Int64.lt_of_lt_of_le (of_decide_eq_true hp) hle)
  rw [takeWhile_eq_filter hclosed, takeWhile_eq_filter (hclosed.filter _),
    dropWhile_eq_filter hclosed, dropWhile_eq_filter (hclosed.filter _), List.filter_filter,
    List.filter_filter, List.filter_filter]
  refine ⟨List.filter_congr fun p _ => ?_, List.filter_congr fun p _ => Bool.and_comm _ _⟩
  rcases hp : p.isBefore first with _ | _
  · rfl
  · rw [hboth p hp]
    rfl

/-- The pair with the number `k` is the first that is not accepted. -/
structure FirstRefusal (c : Counter) (samples : List Sample) (k : Nat) (bad : Pair) : Prop where
  pair_eq : (pairs samples)[k]? = some bad
  refused : ¬ c.Accepts bad
  before : ∀ pair ∈ (pairs samples).take k, c.Accepts pair

theorem increasing_of_pairs {samples : List Sample} (h : ∀ pair ∈ pairs samples, pair.Ordered) :
    Increasing samples := by
  induction samples with
  | nil => exact List.Pairwise.nil
  | cons a rest ih =>
    rcases rest with _ | ⟨b, rest⟩
    · exact List.pairwise_singleton _ a
    · rw [pairs_cons_cons] at h
      exact increasing_cons_cons.mpr ⟨h ⟨a, b⟩ List.mem_cons_self,
        ih fun pair hpair => h pair (List.mem_cons_of_mem _ hpair)⟩

theorem exists_firstRefusal {c : Counter} {samples : List Sample}
    (h : ¬ (Increasing samples ∧ Clocked (some c) samples)) :
    ∃ k bad, FirstRefusal c samples k bad := by
  rcases hfind : (pairs samples).find? fun pair => ¬ c.Accepts pair with _ | bad
  · have hall : ∀ pair ∈ pairs samples, c.Accepts pair := fun pair hpair => by
      simpa using List.find?_eq_none.mp hfind pair hpair
    exact absurd ⟨increasing_of_pairs fun pair hpair => (hall pair hpair).1,
      fun pair hpair => (hall pair hpair).2⟩ h
  · obtain ⟨hbad, before, rest, hpairs, hbefore⟩ := List.find?_eq_some_iff_append.mp hfind
    refine ⟨before.length, bad, ?_, of_decide_eq_true hbad, fun pair hpair => ?_⟩
    · rw [hpairs, List.getElem?_append_right (Nat.le_refl _), Nat.sub_self]
      rfl
    · rw [hpairs, List.take_left] at hpair
      simpa using hbefore pair hpair

/-- Pairs that are accepted and lead up to the pair `bad`. -/
structure LeadsTo (c : Counter) (width offset : Word) (bad : Pair) (items : List Pair) :
    Prop where
  bad_fits : Fits width offset bad.previous.time
  accepted : ∀ pair ∈ items, c.Accepts pair
  earlier : ∀ pair ∈ items, pair.previous.time < bad.previous.time
  increasing : items.Pairwise fun p q => p.previous.time < q.previous.time
  fits : ∀ pair ∈ items, Fits width offset pair.previous.time

section LeadsTo

variable {c : Counter} {width offset : Word} {bad : Pair}

theorem LeadsTo.sublist {items fewer : List Pair} (h : LeadsTo c width offset bad items)
    (hsub : fewer.Sublist items) : LeadsTo c width offset bad fewer :=
  ⟨h.bad_fits, fun p hp => h.accepted p (hsub.mem hp), fun p hp => h.earlier p (hsub.mem hp),
    h.increasing.sublist hsub, fun p hp => h.fits p (hsub.mem hp)⟩

/-- What comes first, a pair that is accepted or the one that is not, has a bucket. -/
theorem LeadsTo.head_fits {next : Pair} {items rest others : List Pair}
    (h : LeadsTo c width offset bad items) (hcons : items ++ bad :: rest = next :: others) :
    Fits width offset next.previous.time := by
  rcases items with _ | ⟨pair, items⟩
  · obtain ⟨rfl, -⟩ := List.cons.inj hcons
    exact h.bad_fits
  · obtain ⟨rfl, -⟩ := List.cons.inj hcons
    exact h.fits pair List.mem_cons_self

end LeadsTo

theorem pairs_take (samples : List Sample) (k : Nat) :
    pairs (samples.take (k + 1)) = (pairs samples).take k := by
  induction k generalizing samples with
  | zero =>
    rcases samples with _ | ⟨a, rest⟩
    · rfl
    · rfl
  | succ k ih =>
    rcases samples with _ | ⟨a, _ | ⟨b, rest⟩⟩
    · rfl
    · rfl
    · exact congrArg (_ :: ·) (ih (b :: rest))

theorem FirstRefusal.leadsTo {c : Counter} {samples : List Sample} {width offset : Word} {k : Nat}
    {bad : Pair} (h : FirstRefusal c samples k bad)
    (hfits : ∀ a ∈ samples, Fits width offset a.time) :
    LeadsTo c width offset bad ((pairs samples).take k) := by
  obtain ⟨hprevious, -⟩ := getElem?_of_pairs h.pair_eq
  have hinc : Increasing (samples.take (k + 1)) := by
    refine increasing_of_pairs ?_
    rw [pairs_take]
    exact fun pair hpair => (h.before pair hpair).1
  have hmem : ∀ pair ∈ (pairs samples).take k, pair.previous ∈ samples.take k := by
    intro pair hpair
    obtain ⟨i, hi⟩ := List.mem_iff_getElem?.mp hpair
    rw [List.getElem?_take] at hi
    split at hi
    · rename_i hik
      refine List.mem_iff_getElem?.mpr ⟨i, ?_⟩
      rw [List.getElem?_take, if_pos hik]
      exact (getElem?_of_pairs hi).1
    · exact absurd hi (by simp)
  have hlast : samples.take (k + 1) = samples.take k ++ [bad.previous] := by
    rw [List.take_add_one, hprevious]
    rfl
  refine ⟨hfits _ (List.mem_of_getElem? hprevious), h.before, ?_, ?_, ?_⟩
  · intro pair hpair
    rw [hlast] at hinc
    exact (List.pairwise_append.mp hinc).2.2 _ (hmem pair hpair) _ (List.mem_singleton_self _)
  · rw [← pairs_take]
    exact pairwise_pairs hinc
  · exact fun pair hpair => hfits _ (List.take_subset _ _ (hmem pair hpair))

namespace Grid

variable {g : Grid} {c : Counter} {width offset : Word} {bad pair : Pair} {items rest : List Pair}

/-! ### Buckets up to a refused pair -/

/-- The grid has these pairs ahead, and the bucket of the first one is open. -/
structure Stands (c : Counter) (width offset : Word) (g : Grid) (items : List Pair) : Prop where
  width_eq : g.width = width
  offset_eq : g.offset = offset
  counting : Counting c g items
  opened : ∀ pair ∈ items.head?,
    g.boundary.toInt = startOf width.toInt offset.toInt pair.previous.time.toInt + width.toInt

/-- The first pair ahead belongs to its own bucket. -/
theorem Stands.isBefore (h : Stands c width offset g (pair :: items)) :
    pair.isBefore g.boundary = true := by
  refine decide_eq_true (lt_of_bucketEnd (g := g) ?_)
  rw [h.width_eq, h.offset_eq]
  exact h.opened pair rfl

theorem Stands.hasValue (h : Stands c width offset g (pair :: items)) :
    hasValue g = .ok true g := by
  rw [hasValue_of_counting h.counting, h.isBefore]

theorem takeBucket_of_takeValues_error {s : Statistic} {fault : Fault} {g' : Grid}
    (h : takeValues (pending g + 1) g = .error fault g') :
    takeBucket s g = .error fault g' := by
  have hsum : summarize s g = .error fault g' := by
    rw [summarize, bind_of_error (show bucketValues g = _ from h)]
  rw [takeBucket, bind_of_error hsum]

/-- The bucket in which the refused pair lies fails with it. -/
theorem takeBucket_of_refused (h : Stands c width offset g (items ++ bad :: rest))
    (hleads : LeadsTo c width offset bad items) (hbad : ¬ c.Accepts bad)
    (hlt : bad.isBefore g.boundary = true) (s : Statistic) :
    ∃ fault g', takeBucket s g = .error fault g' ∧ c.Refuses bad fault := by
  have hlen := h.counting.length_le
  rw [List.length_append, List.length_cons] at hlen
  obtain ⟨fault, g', htake, hrefuses⟩ := takeValues_of_refused h.counting hleads.accepted hbad
    (fun p hp => decide_eq_true (Int64.lt_trans (hleads.earlier p hp) (of_decide_eq_true hlt)))
    hlt (n := pending g + 1) (by omega)
  exact ⟨fault, g', takeBucket_of_takeValues_error htake, hrefuses⟩

/-- A bucket that ends before the refused pair gives its point, and the next one is opened. -/
theorem takeBucket_before (h : Stands c width offset g (pair :: items ++ bad :: rest))
    (hleads : LeadsTo c width offset bad (pair :: items))
    (hbad : bad.isBefore g.boundary = false) (s : Statistic) :
    ∃ g', takeBucket s g = .ok ((walk width offset).point s (c.timed pair,
        (items.takeWhile (Pair.isBefore g.boundary)).map c.timed)) g' ∧
      Stands c width offset g'
        ((items.dropWhile (Pair.isBefore g.boundary)) ++ bad :: rest) := by
  have hlen := h.counting.length_le
  rw [List.length_append] at hlen
  have hlt := h.isBefore
  obtain ⟨feed, phase, htake, h₁⟩ := takeValues_before h.counting hleads.accepted hbad
    (n := pending g + 1) (by omega)
  rw [List.takeWhile_cons_of_pos hlt, List.map_cons] at htake
  rw [List.dropWhile_cons_of_pos hlt] at h₁
  -- what is ahead after that is the refused pair at least, so that there is a bucket to open
  obtain ⟨next, others, hnext⟩ : ∃ next others,
      (items.dropWhile (Pair.isBefore g.boundary)) ++ bad :: rest = next :: others :=
    List.exists_cons_of_ne_nil (by simp)
  have hfits : Fits g.width g.offset next.previous.time := by
    rw [h.width_eq, h.offset_eq]
    exact (hleads.sublist ((List.dropWhile_sublist _).trans (List.sublist_cons_self _ _))).head_fits
      hnext
  rw [hnext] at h₁ ⊢
  obtain ⟨last, hopen, hlast⟩ := openBucket_of_counting h₁ hfits
  have htime : readBucketTime { g with feed := feed, phase := phase }
      = .ok (start width offset pair.previous.time) { g with feed := feed, phase := phase } := by
    have hfits := hleads.fits pair List.mem_cons_self
    have hopened := h.opened pair rfl
    rw [← h.width_eq, ← h.offset_eq] at hfits hopened ⊢
    exact readBucketTime_of_boundary (g := { g with feed := feed, phase := phase }) hfits hopened
  have hsum : summarize s g = .ok (s.ofNonempty (c.timed pair).value
      ((items.takeWhile (Pair.isBefore g.boundary)).map fun p => (c.timed p).value))
      { g with feed := feed, phase := phase } := by
    rw [summarize, bind_of_ok (show bucketValues g = _ from htake)]
    rfl
  have hopenNext : BucketCursor.openNext { g with feed := feed, phase := phase }
      = .ok () { g with feed := feed, phase := phase, boundary := last } :=
    (bind_of_ok (fill_of_begun h₁.begun)).trans hopen
  refine ⟨{ g with feed := feed, phase := phase, boundary := last }, ?_, h.width_eq, h.offset_eq,
    ⟨h₁.reliable, h₁.counter_eq, h₁.begun, h₁.ahead⟩, ?_⟩
  · rw [takeBucket, bind_of_ok hsum, bind_of_ok htime, bind_of_ok hopenNext, Walk.point,
      List.map_map]
    rfl
  · intro p hp
    obtain rfl : next = p := by simpa using hp
    rw [← h.width_eq, ← h.offset_eq]
    exact hlast

theorem next?_of_takeBucket_error {r : Resampler Grid} {fault : Fault} {g' : Grid}
    (hhas : ValueStream.hasValue r.cursor = .ok true r.cursor)
    (htake : takeBucket r.statistic r.cursor = .error fault g') :
    r.next? = .error fault { r with cursor := g' } := by
  have hnext : Resampler.hasNext r = .ok true r := Walk.hasNext_of_ok hhas
  have hpoint : Resampler.nextPoint r = .error fault { r with cursor := g' } := by
    rw [Resampler.nextPoint, bind_of_ok hnext, if_pos rfl, get_bind,
      bind_of_error (Resampler.onCursor_of_error htake)]
  rw [Resampler.next?, bind_of_ok hnext, if_pos rfl, bind_of_error hpoint]

/-- The values whose bucket starts before that of a pair. -/
def valuesBefore (c : Counter) (width offset : Word) (bad : Pair) (items : List Pair) :
    List Timed :=
  (items.filter (Pair.isBefore (start width offset bad.previous.time))).map c.timed

/-- In the bucket of the refused pair no value has a bucket that starts before. -/
theorem valuesBefore_of_refused (h : Stands c width offset g (items ++ bad :: rest))
    (hleads : LeadsTo c width offset bad items) (hlt : bad.isBefore g.boundary = true) :
    valuesBefore c width offset bad items = [] := by
  rcases items with _ | ⟨pair, items⟩
  · rfl
  have hpos : 0 < width.toInt := h.width_eq ▸ g.width_toInt_pos
  have hbad := Int64.lt_iff_toInt_lt.mp (of_decide_eq_true hlt)
  have hfirst := Int64.lt_iff_toInt_lt.mp (hleads.earlier pair List.mem_cons_self)
  rw [h.opened pair rfl, ← startOf_eq_iff hpos (Int.le_of_lt hfirst)] at hbad
  have hstart : startOf width.toInt offset.toInt pair.previous.time.toInt
      ≤ pair.previous.time.toInt := startOf_le hpos
  rw [valuesBefore, List.map_eq_nil_iff, List.filter_eq_nil_iff]
  intro p hp
  rw [Pair.isBefore, decide_eq_true_eq, Int64.lt_iff_toInt_lt, toInt_start hpos hleads.bad_fits,
    hbad]
  rcases List.mem_cons.mp hp with rfl | hp
  · omega
  · have hlater := Int64.lt_iff_toInt_lt.mp ((List.pairwise_cons.mp hleads.increasing).1 p hp)
    omega

/-- A bucket that ends before the refused pair is a stretch of the values before that pair. -/
theorem stretches_valuesBefore (h : Stands c width offset g (pair :: items ++ bad :: rest))
    (hleads : LeadsTo c width offset bad (pair :: items)) (hbad : bad.isBefore g.boundary = false) :
    (walk width offset).stretches (valuesBefore c width offset bad (pair :: items)) =
      (c.timed pair, (items.takeWhile (Pair.isBefore g.boundary)).map c.timed) ::
        (walk width offset).stretches
          (valuesBefore c width offset bad (items.dropWhile (Pair.isBefore g.boundary))) := by
  have hpos : 0 < width.toInt := h.width_eq ▸ g.width_toInt_pos
  have hopened := h.opened pair rfl
  have hlate : g.boundary ≤ start width offset bad.previous.time := by
    have hnot : ¬ bad.previous.time < g.boundary := of_decide_eq_false hbad
    rw [Int64.lt_iff_toInt_lt, hopened] at hnot
    rw [Int64.le_iff_toInt_le, toInt_start hpos hleads.bad_fits, hopened]
    exact add_le_startOf hpos (Int.not_lt.mp hnot)
  have hfirst : pair.isBefore (start width offset bad.previous.time) = true :=
    decide_eq_true (Int64.lt_of_lt_of_le (of_decide_eq_true h.isBefore) hlate)
  have htakes : (fun p => (walk width offset).takes ((walk width offset).enter (c.timed pair))
      (c.timed p)) = Pair.isBefore g.boundary := by
    funext p
    show decide (p.previous.time.toInt < (start width offset pair.previous.time).toInt
      + width.toInt) = decide (p.previous.time < g.boundary)
    rw [toInt_start hpos (hleads.fits pair List.mem_cons_self), ← hopened, decide_eq_decide,
      Int64.lt_iff_toInt_lt]
  obtain ⟨htake, hdrop⟩ := Pair.whileBefore_filter (List.pairwise_cons.mp hleads.increasing).2 hlate
  rw [valuesBefore, List.filter_cons_of_pos hfirst, List.map_cons, Walk.stretches,
    cut_of_not_idle rfl, List.takeWhile_map, List.dropWhile_map]
  show (_, List.map c.timed (List.takeWhile (fun p => (walk width offset).takes _ (c.timed p)) _))
    :: cut _ _ (List.map c.timed
      (List.dropWhile (fun p => (walk width offset).takes _ (c.timed p)) _)) = _
  rw [htakes, htake, hdrop]
  rfl

/-- Draining gives the buckets that end before the refused pair, and then fails with it. -/
theorem drain_of_leads {n : Nat} {r : Resampler Grid} (hleads : LeadsTo c width offset bad items)
    (hrefused : ¬ c.Accepts bad)
    (h : Stands c width offset r.cursor (items ++ bad :: rest)) (hn : items.length < n) :
    ∃ fault r', drain Resampler.next? n r =
      (⟨((walk width offset).stretches (valuesBefore c width offset bad items)).map
          ((walk width offset).point r.statistic), some fault⟩, r') ∧ c.Refuses bad fault := by
  induction n generalizing items r with
  | zero => exact absurd hn (Nat.not_lt_zero _)
  | succ n ih =>
    obtain ⟨next, others, hnext⟩ : ∃ next others, items ++ bad :: rest = next :: others :=
      List.exists_cons_of_ne_nil (by simp)
    have hhas : ValueStream.hasValue r.cursor = .ok true r.cursor := by
      rw [hnext] at h
      exact h.hasValue
    rcases hbad : bad.isBefore r.cursor.boundary with _ | _
    · -- the open bucket ends before the refused pair, so that it is not the last one
      rcases items with _ | ⟨pair, items⟩
      · exact absurd h.isBefore (by rw [hbad]; decide)
      obtain ⟨g', htake, h'⟩ := takeBucket_before h hleads hbad r.statistic
      have hstep := Walk.next?_of_hasValue hhas hhas htake
      generalize hpoint : (walk width offset).point r.statistic _ = point at hstep
      have hlen := (List.dropWhile_sublist (Pair.isBefore r.cursor.boundary) (l := items)).length_le
      rw [List.length_cons] at hn
      have hless := hleads.sublist ((List.dropWhile_sublist (Pair.isBefore r.cursor.boundary)).trans
        (List.sublist_cons_self pair items))
      obtain ⟨fault, r', hdrain, hrefuses⟩ :=
        ih (r := { r with cursor := g', latest := some point }) hless h' (by omega)
      refine ⟨fault, r', ?_, hrefuses⟩
      rw [drain, hstep, stretches_valuesBefore h hleads hbad, List.map_cons, hpoint]
      simp only [hdrain]
    · obtain ⟨fault, g', htake, hrefuses⟩ := takeBucket_of_refused h hleads hrefused hbad r.statistic
      refine ⟨fault, { r with cursor := g' }, ?_, hrefuses⟩
      rw [drain, next?_of_takeBucket_error hhas htake, valuesBefore_of_refused h hleads hbad,
        Walk.stretches, cut_nil, List.map_nil]

/-- The first reading ahead opens the bucket of the first pair. -/
theorem hasValue_of_unread (hphase : g.phase = .unread) (hf : g.feed.readFaults = [])
    (hcounter : g.counter = some c) (hpairs : pairs g.feed.remaining = pair :: items)
    (hfits : Fits g.width g.offset pair.previous.time) :
    ∃ g', hasValue g = .ok true g' ∧ Stands c g.width g.offset g' (pair :: items) := by
  have h := pull_counting hf hcounter
  rw [hpairs] at h
  obtain ⟨last, hopen, hlast⟩ := openBucket_of_counting h hfits
  have hstands : Stands c g.width g.offset
      { g with feed := g.feed.pulled, phase := g.pulled, boundary := last } (pair :: items) := by
    refine ⟨rfl, rfl, ⟨h.reliable, h.counter_eq, h.begun, h.ahead⟩, fun p hp => ?_⟩
    obtain rfl : pair = p := by simpa using hp
    exact hlast
  refine ⟨_, ?_, hstands⟩
  have hfill : fill g
      = .ok () { g with feed := g.feed.pulled, phase := g.pulled, boundary := last } := by
    rw [fill, get_bind, hphase]
    exact (bind_of_ok (pull_eq hf)).trans hopen
  rw [hasValue, bind_of_ok hfill, ← hstands.hasValue, hasValue,
    bind_of_ok (fill_of_begun hstands.counting.begun)]

/-- A resampler over a grid that has read nothing yet gives what it gives after reading ahead. -/
theorem drain_of_hasValue {r : Resampler Grid} {g' : Grid} {n : Nat}
    (hhas : ValueStream.hasValue r.cursor = .ok true g')
    (hagain : ValueStream.hasValue g' = .ok true g') :
    drain Resampler.next? (n + 1) r = drain Resampler.next? (n + 1) { r with cursor := g' } := by
  have hnext : r.hasNext = Resampler.hasNext { r with cursor := g' } := by
    rw [Walk.hasNext_of_ok hhas]
    exact (Walk.hasNext_of_ok (r := { r with cursor := g' }) hagain).symm
  have hsame : r.next? = Resampler.next? { r with cursor := g' } := bind_congr_state hnext
  rw [drain, hsame, drain]

/-! ### All of a counter -/

/-- The bucket of the first time starts before that of the second. -/
def startsBefore (g : Grid) (t u : Word) : Bool :=
  (g.align t).toOption.any fun first => (g.align u).toOption.any fun second => first < second

/-- One point for each bucket start that comes up among the earlier samples of these pairs, with the
statistic of the amounts counted there. -/
def CountedGroups (g : Grid) (c : Counter) (s : Statistic) (items : List Pair)
    (points : List Point) : Prop :=
  Grouped s (fun pair => (g.align pair.previous.time).toOption) id
    (fun pair => c.amount pair.previous pair.current) items points

theorem startsBefore_eq {t u : Word} (ht : Fits g.width g.offset t) (hu : Fits g.width g.offset u) :
    g.startsBefore t u = decide (t < start g.width g.offset u) := by
  have hpos := g.width_toInt_pos
  rw [startsBefore, align_of_fits ht, align_of_fits hu]
  show decide (start g.width g.offset t < start g.width g.offset u) = _
  rw [decide_eq_decide, Int64.lt_iff_toInt_lt, Int64.lt_iff_toInt_lt, toInt_start hpos ht,
    toInt_start hpos hu]
  -- a bucket start is behind a time just if it is behind the start of that time's bucket
  have hle : startOf g.width.toInt g.offset.toInt t.toInt ≤ t.toInt := startOf_le hpos
  refine ⟨fun hlt => Int.not_le.mp fun hge => ?_, fun hlt => Int.lt_of_le_of_lt hle hlt⟩
  have hmono : startOf g.width.toInt g.offset.toInt (startOf g.width.toInt g.offset.toInt u.toInt)
      ≤ startOf g.width.toInt g.offset.toInt t.toInt := startOf_mono hpos hge
  rw [startOf_startOf hpos] at hmono
  omega

/-- The values before a refused pair are grouped by the starts of their buckets. -/
theorem countedGroups_stretches (hleads : LeadsTo c g.width g.offset bad items) (s : Statistic) :
    g.CountedGroups c s
      (items.filter fun pair => g.startsBefore pair.previous.time bad.previous.time)
      (((walk g.width g.offset).stretches (valuesBefore c g.width g.offset bad items)).map
        ((walk g.width g.offset).point s)) := by
  have hfilter : (items.filter fun pair => g.startsBefore pair.previous.time bad.previous.time)
      = items.filter (Pair.isBefore (start g.width g.offset bad.previous.time)) :=
    List.filter_congr fun pair hpair => startsBefore_eq (hleads.fits pair hpair) hleads.bad_fits
  have hless := hleads.sublist (List.filter_sublist
    (p := Pair.isBefore (start g.width g.offset bad.previous.time)) (l := items))
  have hinc : (valuesBefore c g.width g.offset bad items).Pairwise fun v w => v.time < w.time :=
    List.pairwise_map.mpr hless.increasing
  have hfits : ∀ v ∈ valuesBefore c g.width g.offset bad items, Fits g.width g.offset v.time := by
    intro v hv
    obtain ⟨pair, hpair, rfl⟩ := List.mem_map.mp hv
    exact hless.fits pair hpair
  rw [hfilter]
  exact (grouped_stretches hinc hfits s).of_map

variable {samples : List Sample} {hw : 0 < width} {k : Nat}

theorem drain_of_firstRefusal (hbad : FirstRefusal c samples k bad)
    (hfits : ∀ a ∈ samples, Fits width offset a.time) (s : Statistic) (interval : Interval) :
    ∃ points fault r', (Resampler.mk (fresh samples offset (some c) hw) s interval none).drainAll =
        (⟨points, some fault⟩, r') ∧ c.Refuses bad fault ∧
      (fresh samples offset (some c) hw).CountedGroups c s (((pairs samples).take k).filter
        fun pair => (fresh samples offset (some c) hw).startsBefore pair.previous.time
          bad.previous.time) points := by
  have hleads := hbad.leadsTo hfits
  obtain ⟨hk, hget⟩ := List.getElem?_eq_some_iff.mp hbad.pair_eq
  have hpairs : pairs samples = (pairs samples).take k ++ bad :: (pairs samples).drop (k + 1) := by
    rw [← hget, List.getElem_cons_drop, List.take_append_drop]
  obtain ⟨next, others, hnext⟩ : ∃ next others,
      (pairs samples).take k ++ bad :: (pairs samples).drop (k + 1) = next :: others :=
    List.exists_cons_of_ne_nil (by simp)
  have hremaining : (fresh samples offset (some c) hw).feed.remaining = samples :=
    Feed.remaining_ofSamples samples
  obtain ⟨g', hhas, hstands⟩ := hasValue_of_unread (g := fresh samples offset (some c) hw) rfl rfl
    rfl (by rw [hremaining, hpairs, hnext]) (hleads.head_fits hnext)
  have hagain : ValueStream.hasValue g' = .ok true g' := hstands.hasValue
  have hlen : ((pairs samples).take k).length < pending (fresh samples offset (some c) hw) + 1 := by
    have hpending : pending (fresh samples offset (some c) hw) = samples.length := by
      rw [pending, fresh, Feed.left_eq, Feed.remaining_ofSamples]
    rw [hpending, List.length_take]
    rw [length_pairs] at hk
    omega
  rw [← hnext] at hstands
  obtain ⟨fault, r', hdrain, hrefuses⟩ :=
    drain_of_leads (r := ⟨g', s, interval, none⟩) hleads hbad.refused hstands hlen
  refine ⟨_, fault, r', ?_, hrefuses,
    countedGroups_stretches (g := fresh samples offset (some c) hw) hleads s⟩
  rw [Resampler.drainAll]
  exact (drain_of_hasValue (r := ⟨fresh samples offset (some c) hw, s, interval, none⟩) hhas
    hagain).trans hdrain

/-- A fresh grid that counts gives, for samples in order between which all times can be told, one
point for each bucket start that comes up among all samples but the last, with the statistic of the
amounts counted there.  For other samples it gives such points for the buckets that start before that
of the first refused pair, and then fails with what is wrong with that pair: its samples are not in
order, or no word holds the time between them.  Whatever is asked of it, points are made of amounts
that are counted between samples in order. -/
theorem counts_up_to_refusal (hw : 0 < width) (hfits : ∀ a ∈ samples, Fits width offset a.time)
    (c : Counter) (s : Statistic) (interval : Interval) :
    ∃ g, make (.ofSamples samples) width offset (some c) = .ok g ∧
      (Increasing samples → Clocked (some c) samples →
        ∃ points, (Resampler.mk g s interval none).Gives points ∧
          g.CountedGroups c s (pairs samples) points) ∧
      (¬ (Increasing samples ∧ Clocked (some c) samples) →
        ∃ k bad, FirstRefusal c samples k bad ∧ ∃ points fault r',
          (Resampler.mk g s interval none).drainAll = (⟨points, some fault⟩, r') ∧
            c.Refuses bad fault ∧
            g.CountedGroups c s (((pairs samples).take k).filter
              fun pair => g.startsBefore pair.previous.time bad.previous.time) points) ∧
      ∀ (requests : List Request) (point : Point) (r' : Resampler Grid),
        ((Resampler.mk g s interval none).handleAll requests).nextPoint = .ok point r' →
          s.Sums (IsCounted c samples) point.value := by
  refine ⟨_, make_of_pos hw, fun hinc hclocked => ?_, fun hrefused => ?_,
    fun requests point r' h => ?_⟩
  · obtain ⟨points, hgives, hgrouped⟩ := gives_of_fresh hinc hw hfits hclocked s interval
    exact ⟨points, hgives, hgrouped.of_map⟩
  · obtain ⟨k, bad, hbad⟩ := exists_firstRefusal hrefused
    exact ⟨k, bad, hbad, drain_of_firstRefusal hbad hfits s interval⟩
  · have hdraws : Draws c samples (fresh samples offset (some c) hw) := ⟨rfl, rfl, nofun⟩
    exact sums_of_nextPoint (r := ⟨fresh samples offset (some c) hw, s, interval, none⟩) hdraws
      requests h

/-- Samples in order, and samples in the third bucket of which the time goes back. -/
theorem counts_up_to_refusal_of_five :
    (∃ g points, make (.ofSamples [⟨-18, .whole 2⟩, ⟨-7, .whole 3⟩, ⟨2, .whole 9⟩,
        ⟨43, .whole 4⟩]) 10 0 (some ⟨.monotonic, 100, 0⟩) = .ok g ∧
      (Resampler.mk g .sum ⟨10, .fixed⟩ none).Gives points ∧
      g.CountedGroups ⟨.monotonic, 100, 0⟩ .sum (pairs [⟨-18, .whole 2⟩, ⟨-7, .whole 3⟩,
        ⟨2, .whole 9⟩, ⟨43, .whole 4⟩]) points) ∧
    ∃ g k bad points fault r', make (.ofSamples [⟨-18, .whole 2⟩, ⟨-7, .whole 3⟩, ⟨42, .whole 9⟩,
        ⟨44, .whole 10⟩, ⟨43, .whole 11⟩]) 10 0 (some ⟨.monotonic, 100, 0⟩) = .ok g ∧
      FirstRefusal ⟨.monotonic, 100, 0⟩ [⟨-18, .whole 2⟩, ⟨-7, .whole 3⟩, ⟨42, .whole 9⟩,
        ⟨44, .whole 10⟩, ⟨43, .whole 11⟩] k bad ∧
      (Resampler.mk g .sum ⟨10, .fixed⟩ none).drainAll = (⟨points, some fault⟩, r') ∧
      Counter.Refuses ⟨.monotonic, 100, 0⟩ bad fault := by
  have hordered : ∀ a ∈ [(⟨-18, .whole 2⟩ : Sample), ⟨-7, .whole 3⟩, ⟨2, .whole 9⟩,
      ⟨43, .whole 4⟩], Fits 10 0 a.time := by decide
  have hdisordered : ∀ a ∈ [(⟨-18, .whole 2⟩ : Sample), ⟨-7, .whole 3⟩, ⟨42, .whole 9⟩,
      ⟨44, .whole 10⟩, ⟨43, .whole 11⟩], Fits 10 0 a.time := by decide
  obtain ⟨g, hmake, hgives, -, -⟩ := counts_up_to_refusal (by decide) hordered
    ⟨.monotonic, 100, 0⟩ .sum ⟨10, .fixed⟩
  obtain ⟨g', hmake', -, hfails, -⟩ := counts_up_to_refusal (by decide) hdisordered
    ⟨.monotonic, 100, 0⟩ .sum ⟨10, .fixed⟩
  obtain ⟨points, hpoints⟩ := hgives (by decide) (by decide +kernel)
  obtain ⟨k, bad, hbad, points', fault, r', hdrain, hrefuses, -⟩ :=
    hfails (by decide)
  exact ⟨⟨g, points, hmake, hpoints⟩, g', k, bad, points', fault, r', hmake', hbad, hdrain,
    hrefuses⟩

/-- The first two of three samples are further apart than a word can say.  The samples are in order
and words hold the ends of all buckets, but draining fails before the first point, where the amounts
5 and 7 would make two of them. -/
theorem counting_overflows_of_three :
    (¬ ∀ (samples : List Sample) (width offset : Word) (c : Counter), Increasing samples →
      0 < width → (∀ a ∈ samples, Fits width offset a.time) →
        ∃ g, make (.ofSamples samples) width offset (some c) = .ok g ∧
          ∃ points, (Resampler.mk g .sum ⟨width, .fixed⟩ none).Gives points ∧
            g.CountedGroups c .sum (pairs samples) points) ∧
    ∃ g, make (.ofSamples [⟨-4611686018427387904, .whole 0⟩, ⟨4611686018427387904, .whole 5⟩,
        ⟨4611686018428387904, .whole 12⟩]) 1000 0 (some ⟨.monotonic, 9223372036854775807, 0⟩)
        = .ok g ∧
      (Resampler.mk g .sum ⟨1000, .fixed⟩ none).drainAll.1 = ⟨[], some .overflow⟩ := by
  have hdrain : (Resampler.mk (fresh [⟨-4611686018427387904, .whole 0⟩,
      ⟨4611686018427387904, .whole 5⟩, ⟨4611686018428387904, .whole 12⟩] 0
      (some ⟨.monotonic, 9223372036854775807, 0⟩) (by decide : (0 : Word) < 1000)) .sum
      ⟨1000, .fixed⟩ none).drainAll.1 = ⟨[], some .overflow⟩ := rfl
  refine ⟨fun hall => ?_, _, make_of_pos (by decide), hdrain⟩
  obtain ⟨g, hmake, points, ⟨r', hpoints, -⟩, -⟩ := hall [⟨-4611686018427387904, .whole 0⟩,
    ⟨4611686018427387904, .whole 5⟩, ⟨4611686018428387904, .whole 12⟩] 1000 0
    ⟨.monotonic, 9223372036854775807, 0⟩ (by decide) (by decide) (by decide)
  obtain rfl := Except.ok.inj ((make_of_pos (by decide)).symm.trans hmake)
  rw [hpoints] at hdrain
  cases hdrain

end Grid

end TimeBuckets
