/-
Towers of calendars.

* `CalendarUnit.IsUnit`, `CalendarUnit.SameUnit` — the units of UTC as stretches of time, and times
  in one of them;
* `Layer.Joins` — a bucket takes what lies in the same units as the item that opened it;
* `AnyCursor.tower` — calendars of UTC above a grid or runs;
* `Tiled` — points that are the statistics of all values, divided just where a unit or a run ends;
* `AnyCursor.points_of_tower` — the points of a tower are of this kind.

The points of a tower stand at the starts of the units of its uppermost calendar.  So the times of
points do not decrease, but where a calendar further down, or a run, ends within such a unit, the
next point has the same time.
-/
import Mathlib.Data.List.Forall2
import TimeBuckets.Proofs.Layers
import TimeBuckets.Proofs.RunSeek

namespace TimeBuckets

/-! ### Units of UTC -/

namespace CalendarUnit

variable {u v : CalendarUnit} {t t' t'' first last first' last' : Word}

/-- A unit begins and ends at these instants. -/
def IsUnit (u : CalendarUnit) (first last : Word) : Prop :=
  ∃ start next, u.start start = start ∧ u.next? start = some next ∧
    Zone.utc.localMidnight? start = some first ∧ Zone.utc.localMidnight? next = some last

theorem UnitAt.isUnit {start next : Date} (h : u.UnitAt Zone.utc t start next first last) :
    u.IsUnit first last := by
  obtain ⟨date, -, rfl⟩ := h.exists_date
  exact ⟨_, next, start_start u date, h.next_eq, h.first_eq, h.last_eq⟩

/-- Units are stretches of months, and years begin with every twelfth month. -/
theorem IsUnit.exists_months (h : u.IsUnit first last) :
    ∃ k, first.toInt = 86400000 * monthStart (u.months * k - 2) ∧
      last.toInt = 86400000 * monthStart (u.months * (k + 1) - 2) := by
  obtain ⟨start, next, hstart, hnext, hfirst, hlast⟩ := h
  obtain ⟨m, hm, hfrom⟩ := Zone.utc_localMidnight? start
  obtain ⟨m', hm', hupto⟩ := Zone.utc_localMidnight? next
  obtain rfl := Option.some.inj (hm.symm.trans hfirst)
  obtain rfl := Option.some.inj (hm'.symm.trans hlast)
  obtain ⟨k, hk⟩ : ∃ k, u.firstMonth start = u.months * k - 2 := by
    cases u with
    | month => exact ⟨start.index + 2, by simp only [firstMonth, months]; omega⟩
    | year => exact ⟨start.year, by simp only [firstMonth, months, monthIndex]; omega⟩
  refine ⟨k, ?_, ?_⟩
  · rw [hfrom, ← hk, ← toDays_start, hstart]
  · rw [hupto, toDays_next hnext, hk,
      show u.months * k - 2 + u.months = u.months * (k + 1) - 2 by rw [Int.mul_add]; omega]

/-- Units that have a time in common are nested, those with fewer months in those with more. -/
theorem IsUnit.nested (h : u.IsUnit first last) (h' : v.IsUnit first' last')
    (hmonths : u.months ∣ v.months) (ht : first ≤ t ∧ t < last) (ht' : first' ≤ t ∧ t < last') :
    first' ≤ first ∧ last ≤ last' := by
  obtain ⟨k, hk, hk'⟩ := h.exists_months
  obtain ⟨j, hj, hj'⟩ := h'.exists_months
  simp only [Int64.le_iff_toInt_le, Int64.lt_iff_toInt_lt] at ht ht' ⊢
  have hlow : u.months * k - 2 < v.months * (j + 1) - 2 := monthStart_lt_iff.mp (by omega)
  have hhigh : v.months * j - 2 < u.months * (k + 1) - 2 := monthStart_lt_iff.mp (by omega)
  have hends : v.months * j - 2 ≤ u.months * k - 2 ∧
      u.months * (k + 1) - 2 ≤ v.months * (j + 1) - 2 := by
    cases u with
    | month =>
      cases v with
      | month =>
        simp only [months] at hlow hhigh ⊢
        omega
      | year =>
        simp only [months] at hlow hhigh ⊢
        omega
    | year =>
      cases v with
      | month => exact absurd hmonths (by decide)
      | year =>
        simp only [months] at hlow hhigh ⊢
        omega
  have hfirst := monthStart_mono hends.1
  have hlast := monthStart_mono hends.2
  omega

/-- The unit around a time is one. -/
theorem IsUnit.unique (h : u.IsUnit first last) (h' : u.IsUnit first' last')
    (ht : first ≤ t ∧ t < last) (ht' : first' ≤ t ∧ t < last') : first = first' ∧ last = last' := by
  obtain ⟨hfirst, hlast⟩ := h.nested h' (Int.dvd_refl _) ht ht'
  obtain ⟨hfirst', hlast'⟩ := h'.nested h (Int.dvd_refl _) ht' ht
  exact ⟨Int64.le_antisymm hfirst' hfirst, Int64.le_antisymm hlast hlast'⟩

/-- The times lie in one unit. -/
def SameUnit (u : CalendarUnit) (t t' : Word) : Prop :=
  ∃ first last, u.IsUnit first last ∧ (first ≤ t ∧ t < last) ∧ (first ≤ t' ∧ t' < last)

theorem SameUnit.symm (h : u.SameUnit t t') : u.SameUnit t' t := by
  obtain ⟨first, last, hunit, ht, ht'⟩ := h
  exact ⟨first, last, hunit, ht', ht⟩

theorem SameUnit.trans (h : u.SameUnit t t') (h' : u.SameUnit t' t'') : u.SameUnit t t'' := by
  obtain ⟨first, last, hunit, ht, hmid⟩ := h
  obtain ⟨first', last', hunit', hmid', ht''⟩ := h'
  obtain ⟨rfl, rfl⟩ := hunit.unique hunit' hmid hmid'
  exact ⟨first, last, hunit, ht, ht''⟩

/-- A time between two times of a unit lies in the unit. -/
theorem SameUnit.of_between (h : u.SameUnit t t'') (hle : t ≤ t') (hle' : t' ≤ t'') :
    u.SameUnit t t' := by
  obtain ⟨first, last, hunit, ht, ht''⟩ := h
  exact ⟨first, last, hunit, ht, Int64.le_trans ht.1 hle, Int64.lt_of_le_of_lt hle' ht''.2⟩

/-- A later time lies in the unit just if it comes before the end of the unit. -/
theorem IsUnit.lt_iff_sameUnit (h : u.IsUnit first last) (ht : first ≤ t ∧ t < last)
    (hle : t ≤ t') : t' < last ↔ u.SameUnit t t' := by
  constructor
  · exact fun hlt => ⟨first, last, h, ht, Int64.le_trans ht.1 hle, hlt⟩
  · rintro ⟨first', last', h', ht', hmem⟩
    obtain ⟨-, rfl⟩ := h.unique h' ht ht'
    exact hmem.2

/-- What lies in one month lies in one year, if there is such a year. -/
theorem SameUnit.of_month (h : month.SameUnit t t') (hyear : year.SameUnit t t) :
    year.SameUnit t t' := by
  obtain ⟨first, last, hunit, ht, ht'⟩ := h
  obtain ⟨first', last', hunit', hmem, -⟩ := hyear
  obtain ⟨hfirst, hlast⟩ := hunit.nested hunit' (by decide) ht hmem
  exact ⟨first', last', hunit', hmem, Int64.le_trans hfirst ht'.1, Int64.lt_of_lt_of_le ht'.2 hlast⟩

end CalendarUnit

/-! ### Buckets of layers -/

namespace Layer

variable {σ α β : Type} {timed : α → Timed} {idle : α → Bool}
  {L : Layer σ timed idle β} {items : List α} {parts : List (List α × β)}

namespace CutsInto

/-- A bucket is opened by its first item and takes all the others. -/
theorem of_mem (hcut : L.CutsInto items parts) {part : List α × β} (hpart : part ∈ parts) :
    ∃ a rest, part.1 = a :: rest ∧ L.Enters a part.2 ∧
      ∀ x ∈ rest, L.takes part.2 x = true := by
  induction hcut with
  | nil => exact absurd hpart List.not_mem_nil
  | cons hitems henters hparts ih =>
    rcases List.mem_cons.mp hpart with rfl | hmem
    · exact ⟨_, _, rfl, henters, fun x hx => List.mem_takeWhile_imp hx⟩
    · exact ih hmem

/-- The items of a bucket are neighbours. -/
theorem infix_of_mem (hcut : L.CutsInto items parts) {part : List α × β} (hpart : part ∈ parts) :
    part.1 <:+: items := by
  induction hcut with
  | nil => exact absurd hpart List.not_mem_nil
  | @cons items a rest b parts hitems henters hparts ih =>
    have hsuffix : a :: rest <:+ items := hitems ▸ List.dropWhile_suffix idle
    rcases List.mem_cons.mp hpart with rfl | hmem
    · exact (List.prefix_cons_inj a |>.mpr (List.takeWhile_prefix _)).isInfix.trans hsuffix.isInfix
    · have hback := (List.dropWhile_suffix (L.takes b) (l := rest)).trans (List.suffix_cons a rest)
      exact (ih hmem).trans (hback.trans hsuffix).isInfix

/-- Between a bucket and the items of the buckets behind it there is an item that it does not
take. -/
theorem pairwise_stopped (hinc : items.Pairwise fun x y => (timed x).time < (timed y).time)
    (hcut : L.CutsInto items parts) :
    parts.Pairwise fun part part' => ∃ x ∈ items, L.takes part.2 x = false ∧
      (∀ y ∈ part.1, (timed y).time < (timed x).time) ∧
      ∀ z ∈ part'.1, (timed x).time < (timed z).time ∨ x = z := by
  induction hcut with
  | nil => exact List.Pairwise.nil
  | @cons items a rest b parts hitems henters hparts ih =>
    have hsub : (a :: rest).Sublist items := hitems ▸ List.dropWhile_sublist idle
    have hinc' := hinc.sublist hsub
    have hback := (List.dropWhile_sublist (L.takes b) (l := rest)).trans
      (List.sublist_cons_self a rest)
    refine List.pairwise_cons.mpr ⟨fun part' hpart' => ?_, ?_⟩
    · -- the item at which the bucket stops is the first one of what the others are cut from
      have hin := (hparts.infix_of_mem hpart').subset
      rcases hstop : rest.dropWhile (L.takes b) with _ | ⟨x, more⟩
      · obtain ⟨z, tail, hfirst, -⟩ := hparts.of_mem hpart'
        have hmem := hin (hfirst ▸ List.mem_cons_self)
        rw [hstop] at hmem
        exact absurd hmem List.not_mem_nil
      · have hsplit : (a :: rest.takeWhile (L.takes b)) ++ x :: more = a :: rest := by
          rw [← hstop, List.cons_append, List.takeWhile_append_dropWhile]
        rw [← hsplit] at hinc' hsub
        obtain ⟨-, hbehind, hacross⟩ := List.pairwise_append.mp hinc'
        have hnot := List.head?_dropWhile_not (L.takes b) rest
        rw [hstop, List.head?_cons] at hnot
        refine ⟨x, hsub.mem (List.mem_append_right _ List.mem_cons_self), hnot,
          fun y hy => hacross y hy x List.mem_cons_self, fun z hz => ?_⟩
        have hmem := hin hz
        rw [hstop] at hmem
        rcases List.mem_cons.mp hmem with rfl | hmem
        · exact Or.inr rfl
        · exact Or.inl ((List.pairwise_cons.mp hbehind).1 z hmem)
    · refine (ih (hinc'.sublist hback)).imp ?_
      rintro part part' ⟨x, hx, hstopped⟩
      exact ⟨x, hsub.mem (hback.mem hx), hstopped⟩

variable [BucketCursor σ]

/-- The buckets have all items that are not idle, in their order. -/
theorem flatten_eq (h : L.Lawful) (hcut : L.CutsInto items parts) :
    (parts.map Prod.fst).flatten = items.filter (!idle ·) := by
  induction hcut with
  | @nil items hitems =>
    rw [List.dropWhile_eq_nil_iff] at hitems
    rw [List.map_nil, List.flatten_nil, eq_comm, List.filter_eq_nil_iff]
    exact fun a ha => by simp [hitems a ha]
  | @cons items a rest b parts hitems henters hparts ih =>
    have hfront : (items.takeWhile idle).filter (!idle ·) = [] := by
      rw [List.filter_eq_nil_iff]
      exact fun x hx => by simp [List.mem_takeWhile_imp hx]
    have htaken : (rest.takeWhile (L.takes b)).filter (!idle ·) = rest.takeWhile (L.takes b) := by
      rw [List.filter_eq_self]
      exact fun x hx => by simp [h.live_of_takes (List.mem_takeWhile_imp hx)]
    have hlive : idle a = false := h.live_of_takes (h.takes_of_enters henters)
    rw [List.map_cons, List.flatten_cons, ih, ← List.takeWhile_append_dropWhile (p := idle)
      (l := items), List.filter_append, hfront, hitems, List.nil_append,
      List.filter_cons_of_pos (by simp [hlive]), List.cons_append,
      ← List.takeWhile_append_dropWhile (p := L.takes b) (l := rest), List.filter_append]
    simp only [htaken, List.takeWhile_append_dropWhile]

theorem flatten_map_timed (h : L.Lawful) (hcut : L.CutsInto items parts) :
    (parts.map fun part => part.1.map timed).flatten = (items.filter (!idle ·)).map timed := by
  rw [← hcut.flatten_eq h, List.map_flatten, List.map_map]
  rfl

theorem live_of_mem (h : L.Lawful) (hcut : L.CutsInto items parts) {part : List α × β}
    (hpart : part ∈ parts) {x : α} (hx : x ∈ part.1) : idle x = false := by
  have hmem := List.mem_flatten_of_mem (List.mem_map_of_mem (f := Prod.fst) hpart) hx
  rw [hcut.flatten_eq h] at hmem
  simpa using (List.mem_filter.mp hmem).2

/-- No idle item interrupts a bucket. -/
theorem not_interrupted (h : L.Lawful)
    (hinc : items.Pairwise fun x y => (timed x).time < (timed y).time)
    (hcut : L.CutsInto items parts) {part : List α × β} (hpart : part ∈ parts) {y z : α}
    (hy : y ∈ part.1) (hz : z ∈ part.1) :
    ∀ gap ∈ (items.filter idle).map fun x => (timed x).time,
      ¬ ((timed y).time < gap ∧ gap < (timed z).time) := by
  rintro gap hgap ⟨hyx, hxz⟩
  obtain ⟨x, hfiltered, rfl⟩ := List.mem_map.mp hgap
  obtain ⟨hx, hidle⟩ := List.mem_filter.mp hfiltered
  -- the idle item would have to stand in front of the bucket, in it, or behind it
  obtain ⟨front, back, hsplit⟩ := hcut.infix_of_mem hpart
  rw [← hsplit] at hx hinc
  obtain ⟨hfront, -, hback⟩ := List.pairwise_append.mp hinc
  rcases List.mem_append.mp hx with hx | hx
  · rcases List.mem_append.mp hx with hx | hx
    · exact Int64.lt_asymm hyx ((List.pairwise_append.mp hfront).2.2 x hx y hy)
    · exact absurd (hcut.live_of_mem h hpart hx) (by rw [hidle]; decide)
  · exact Int64.lt_asymm hxz (hback z (List.mem_append_right _ hz) x hx)

end CutsInto

/-- Of what comes behind the item that opened it, a bucket takes what is not idle and lies in the
same unit of each of these calendars. -/
def Joins (L : Layer σ timed idle β) (us : List CalendarUnit) : Prop :=
  ∀ (a x : α) (b : β), L.Enters a b → (timed a).time ≤ (timed x).time →
    (L.takes b x = true ↔ idle x = false ∧ ∀ u ∈ us, u.SameUnit (timed a).time (timed x).time)

/-- A bucket does so up to an end that is set from above. -/
def JoinsUpTo (L : Layer σ timed idle β) (withEnd : Word → β → β) (us : List CalendarUnit) : Prop :=
  ∀ (a x : α) (b : β) (last : Word), L.Enters a b → (timed a).time ≤ (timed x).time →
    (timed x).time < last → (L.takes (withEnd last b) x = true ↔
      idle x = false ∧ ∀ u ∈ us, u.SameUnit (timed a).time (timed x).time)

end Layer

/-! ### Points and the values they are about -/

/-- Nothing divides a time from a later one: they lie in one unit of each of these calendars, and
there is no gap between them. -/
def Undivided (us : List CalendarUnit) (gaps : List Word) (t t' : Word) : Prop :=
  (∀ u ∈ us, u.SameUnit t t') ∧ ∀ gap ∈ gaps, ¬ (t < gap ∧ gap < t')

/-- The point is the statistic of values that nothing divides, at the start of the unit of the
uppermost calendar. -/
structure PointOf (s : Statistic) (us : List CalendarUnit) (gaps : List Word) (part : List Timed)
    (p : Point) : Prop where
  value_eq : s.ofValues? (part.map Timed.value) = some p.value
  undivided : ∀ v ∈ part, ∀ w ∈ part, Undivided us gaps v.time w.time
  time_eq : ∀ u ∈ us.head?, ∃ last, u.IsUnit p.time last ∧
    ∀ v ∈ part, p.time ≤ v.time ∧ v.time < last

/-- The points are those of all values, and under a calendar these are divided only where something
divides them. -/
structure Tiled (s : Statistic) (us : List CalendarUnit) (values : List Timed) (gaps : List Word)
    (parts : List (List Timed)) (points : List Point) : Prop where
  flatten_eq : parts.flatten = values
  points_eq : List.Forall₂ (PointOf s us gaps) parts points
  divided : us ≠ [] → parts.Pairwise fun part part' =>
    ∀ v ∈ part, ∀ w ∈ part', ¬ Undivided us gaps v.time w.time

namespace Layer.Joins

variable {σ α β : Type} {timed : α → Timed} {idle : α → Bool} [BucketCursor σ]
  {L : Layer σ timed idle β} {items : List α} {parts : List (List α × β)} {us : List CalendarUnit}

/-- The items of a bucket lie in the units of the one that opened it. -/
theorem sameUnit_of_mem (hjoins : L.Joins us) (h : L.Lawful)
    (hinc : items.Pairwise fun x y => (timed x).time < (timed y).time)
    (hcut : L.CutsInto items parts) {part : List α × β} (hpart : part ∈ parts) :
    ∃ a ∈ part.1, L.Enters a part.2 ∧ ∀ x ∈ part.1, (timed a).time ≤ (timed x).time ∧
      ∀ u ∈ us, u.SameUnit (timed a).time (timed x).time := by
  obtain ⟨a, rest, hfirst, henters, htakes⟩ := hcut.of_mem hpart
  have hsorted : part.1.Pairwise fun x y => (timed x).time < (timed y).time := by
    have hall := hinc.sublist (List.filter_sublist (p := fun x => !idle x))
    rw [← hcut.flatten_eq h, List.pairwise_flatten] at hall
    exact hall.1 _ (List.mem_map_of_mem hpart)
  refine ⟨a, hfirst ▸ List.mem_cons_self, henters, fun x hx => ?_⟩
  rw [hfirst] at hsorted hx
  have hle : (timed a).time ≤ (timed x).time := by
    rcases List.mem_cons.mp hx with rfl | hmem
    · exact Int64.le_refl _
    · exact Int64.le_of_lt ((List.pairwise_cons.mp hsorted).1 x hmem)
  have htake : L.takes part.2 x = true := by
    rcases List.mem_cons.mp hx with rfl | hmem
    · exact h.takes_of_enters henters
    · exact htakes x hmem
  exact ⟨hle, ((hjoins a x part.2 henters hle).mp htake).2⟩

/-- Nothing divides the items of a bucket. -/
theorem undivided (hjoins : L.Joins us) (h : L.Lawful)
    (hinc : items.Pairwise fun x y => (timed x).time < (timed y).time)
    (hcut : L.CutsInto items parts) {part : List α × β} (hpart : part ∈ parts) {y z : α}
    (hy : y ∈ part.1) (hz : z ∈ part.1) :
    Undivided us ((items.filter idle).map fun x => (timed x).time) (timed y).time
      (timed z).time := by
  obtain ⟨a, -, -, hsame⟩ := hjoins.sameUnit_of_mem h hinc hcut hpart
  exact ⟨fun u hu => ((hsame y hy).2 u hu).symm.trans ((hsame z hz).2 u hu),
    hcut.not_interrupted h hinc hpart hy hz⟩

/-- Something divides the items of two buckets. -/
theorem divided (hjoins : L.Joins us) (h : L.Lawful)
    (hinc : items.Pairwise fun x y => (timed x).time < (timed y).time)
    (hcut : L.CutsInto items parts) :
    parts.Pairwise fun part part' => ∀ y ∈ part.1, ∀ z ∈ part'.1,
      ¬ Undivided us ((items.filter idle).map fun x => (timed x).time) (timed y).time
        (timed z).time := by
  refine (hcut.pairwise_stopped hinc).imp_of_mem ?_
  rintro part part' hpart hpart' ⟨x, hx, hstop, hbefore, hbehind⟩ y hy z hz ⟨hunits, hgaps⟩
  obtain ⟨a, ha, henters, hsame⟩ := hjoins.sameUnit_of_mem h hinc hcut hpart
  have hax := hbefore a ha
  rcases hidle : idle x with _ | _
  · -- the item that is not taken would lie in the same units, since what comes behind it does
    have hxz : (timed x).time ≤ (timed z).time := by
      rcases hbehind z hz with hlt | rfl
      · exact Int64.le_of_lt hlt
      · exact Int64.le_refl _
    have hall : ∀ u ∈ us, u.SameUnit (timed a).time (timed x).time := fun u hu =>
      (((hsame y hy).2 u hu).trans (hunits u hu)).of_between (Int64.le_of_lt hax) hxz
    rw [(hjoins a x part.2 henters (Int64.le_of_lt hax)).mpr ⟨hidle, hall⟩] at hstop
    exact absurd hstop (by decide)
  · refine hgaps _ (List.mem_map_of_mem (List.mem_filter.mpr ⟨hx, hidle⟩)) ⟨hbefore y hy, ?_⟩
    rcases hbehind z hz with hlt | rfl
    · exact hlt
    · exact absurd (hcut.live_of_mem h hpart' hz) (by rw [hidle]; decide)

end Layer.Joins

namespace CalendarCursor

variable {σ α β : Type} {timed : α → Timed} {idle : α → Bool}
  {L : Layer σ timed idle β} {withEnd : Word → β → β} {u : CalendarUnit} {us : List CalendarUnit}
  {c : CalendarCursor σ} {items : List α}

/-- A calendar joins what the layer below joins and its own unit. -/
theorem joins (hjoins : L.JoinsUpTo withEnd us) : (layer u withEnd L).Joins (u :: us) := by
  intro a x b ⟨inner, start, next, first, henters, hpinned, hat⟩ hle
  show (L.takes b.2 x && decide ((timed x).time < b.1)) = true ↔ _
  rw [Bool.and_eq_true_iff, decide_eq_true_iff, List.forall_mem_cons,
    hat.isUnit.lt_iff_sameUnit hat.mem hle, hpinned]
  constructor
  · rintro ⟨htakes, hsame⟩
    have hlt := (hat.isUnit.lt_iff_sameUnit hat.mem hle).mpr hsame
    obtain ⟨hlive, hall⟩ := (hjoins a x inner b.1 henters hle hlt).mp htakes
    exact ⟨hlive, hsame, hall⟩
  · rintro ⟨hlive, hsame, hall⟩
    have hlt := (hat.isUnit.lt_iff_sameUnit hat.mem hle).mpr hsame
    exact ⟨(hjoins a x inner b.1 henters hle hlt).mpr ⟨hlive, hall⟩, hsame⟩

variable [BucketCursor σ]

/-- A drain of a calendar above a layer without a fault. -/
theorem exists_tiled (h : L.Pinned withEnd) (hjoins : L.JoinsUpTo withEnd us)
    (hinc : items.Pairwise fun x y => (timed x).time < (timed y).time)
    (hc : (layer u withEnd L).Unread c items) {s : Statistic} {points : List Point}
    (hend : (drainBuckets s c).1 = ⟨points, none⟩) :
    ∃ parts, Tiled s (u :: us) ((items.filter (!idle ·)).map timed)
      ((items.filter idle).map fun x => (timed x).time) parts points := by
  have hlawful := lawful (u := u) h
  obtain ⟨parts, hcut, heach⟩ := (dated h).exists_cut hc hend
  refine ⟨parts.map fun part => part.1.map timed, hcut.flatten_map_timed hlawful, ?_, fun _ => ?_⟩
  · rw [List.forall₂_map_left_iff]
    refine ((List.forall₂_and_left parts points).mpr ⟨fun _ hpart => hpart, heach⟩).imp ?_
    rintro part p ⟨hpart, htime, hvalue⟩
    obtain ⟨a, ha, ⟨inner, start, next, first, -, -, hat⟩, hsame⟩ :=
      (joins hjoins).sameUnit_of_mem hlawful hinc hcut hpart
    obtain rfl : p.time = first := htime.trans (startBefore_of_unitAt hat)
    refine ⟨by rw [List.map_map]; exact hvalue, fun v hv w hw => ?_, fun u' hu' => ?_⟩
    · obtain ⟨y, hy, rfl⟩ := List.mem_map.mp hv
      obtain ⟨z, hz, rfl⟩ := List.mem_map.mp hw
      exact (joins hjoins).undivided hlawful hinc hcut hpart hy hz
    · rw [List.head?_cons, Option.mem_some_iff] at hu'
      subst hu'
      refine ⟨part.2.1, hat.isUnit, fun v hv => ?_⟩
      obtain ⟨y, hy, rfl⟩ := List.mem_map.mp hv
      obtain ⟨hle, hall⟩ := hsame y hy
      exact ⟨Int64.le_trans hat.mem.1 hle, (hat.isUnit.lt_iff_sameUnit hat.mem hle).mpr
        (hall u List.mem_cons_self)⟩
  · rw [List.pairwise_map]
    refine ((joins hjoins).divided hlawful hinc hcut).imp fun {part part'} hdivided v hv w hw => ?_
    obtain ⟨y, hy, rfl⟩ := List.mem_map.mp hv
    obtain ⟨z, hz, rfl⟩ := List.mem_map.mp hw
    exact hdivided y hy z hz

end CalendarCursor

/-! ### Times of points -/

/-- Pairs in one list give pairs in another one that goes along with it. -/
theorem pairwise_of_forall₂ {α β : Type} {Q : α → β → Prop} {R : α → α → Prop} {S : β → β → Prop}
    {as : List α} {bs : List β} (heach : List.Forall₂ Q as bs) (has : as.Pairwise R)
    (hstep : ∀ a a' b b', Q a b → Q a' b' → R a a' → S b b') : bs.Pairwise S := by
  rw [List.pairwise_iff_getElem] at has ⊢
  intro i j hi hj hij
  have hlength := heach.length_eq
  exact hstep _ _ _ _ (heach.get (hlength ▸ hi) hi) (heach.get (hlength ▸ hj) hj)
    (has i j (hlength ▸ hi) (hlength ▸ hj) hij)

theorem PointOf.exists_mem {s : Statistic} {us : List CalendarUnit} {gaps : List Word}
    {part : List Timed} {p : Point} (h : PointOf s us gaps part p) : ∃ v, v ∈ part := by
  rcases part with _ | ⟨v, rest⟩
  · exact absurd h.value_eq nofun
  · exact ⟨v, List.mem_cons_self⟩

namespace Tiled

variable {s : Statistic} {u : CalendarUnit} {us : List CalendarUnit} {values : List Timed}
  {gaps : List Word} {parts : List (List Timed)} {points : List Point}

theorem pairwise_parts (h : Tiled s us values gaps parts points)
    (hinc : values.Pairwise fun v w => v.time < w.time) :
    parts.Pairwise fun part part' => ∀ v ∈ part, ∀ w ∈ part', v.time < w.time := by
  rw [← h.flatten_eq, List.pairwise_flatten] at hinc
  exact hinc.2

/-- The times of points under a calendar do not decrease. -/
theorem pairwise_le (h : Tiled s (u :: us) values gaps parts points)
    (hinc : values.Pairwise fun v w => v.time < w.time) :
    points.Pairwise fun p q => p.time ≤ q.time := by
  refine pairwise_of_forall₂ h.points_eq (h.pairwise_parts hinc) ?_
  intro part part' p q hp hq hlt
  obtain ⟨v, hv⟩ := hp.exists_mem
  obtain ⟨w, hw⟩ := hq.exists_mem
  obtain ⟨last, hunit, hpart⟩ := hp.time_eq u rfl
  obtain ⟨last', hunit', hpart'⟩ := hq.time_eq u rfl
  by_contra hle
  -- the unit of the later value would have the earlier one as well
  have hbetween : q.time ≤ v.time ∧ v.time < last' :=
    ⟨Int64.le_trans (Int64.le_of_lt (Int64.not_le.mp hle)) (hpart v hv).1,
      Int64.lt_trans (hlt v hv w hw) (hpart' w hw).2⟩
  have hsame := hunit.unique hunit' (hpart v hv) hbetween
  exact hle (hsame.1 ▸ Int64.le_refl _)

/-- Where no other calendar divides a unit of the uppermost one, and nothing else does, the times
of points increase. -/
theorem pairwise_lt (h : Tiled s (u :: us) values [] parts points)
    (hinc : values.Pairwise fun v w => v.time < w.time)
    (hfinest : u = .month ∨ ∀ u' ∈ us, u' = .year) :
    points.Pairwise fun p q => p.time < q.time := by
  refine pairwise_of_forall₂ h.points_eq
    ((h.pairwise_parts hinc).and (h.divided (List.cons_ne_nil u us))) ?_
  rintro part part' p q hp hq ⟨hlt, hdivided⟩
  obtain ⟨v, hv⟩ := hp.exists_mem
  obtain ⟨w, hw⟩ := hq.exists_mem
  obtain ⟨last', hunit', hpart'⟩ := hq.time_eq u rfl
  by_contra hle
  -- otherwise the unit of the later value has the earlier one as well, which is of another unit
  have hsame : u.SameUnit v.time w.time := by
    obtain ⟨last, -, hpart⟩ := hp.time_eq u rfl
    exact ⟨q.time, last', hunit', ⟨Int64.le_trans (Int64.not_lt.mp hle) (hpart v hv).1,
      Int64.lt_trans (hlt v hv w hw) (hpart' w hw).2⟩, hpart' w hw⟩
  refine hdivided v hv w hw ⟨fun u' hu' => ?_, nofun⟩
  have hwithin := (hp.undivided v hv v hv).1 u' hu'
  rcases List.mem_cons.mp hu' with rfl | hmem
  · exact hsame
  · rcases hfinest with rfl | hyears
    · cases u' with
      | month => exact hsame
      | year => exact hsame.of_month hwithin
    · obtain rfl := hyears u' hmem
      cases u with
      | month => exact hsame.of_month hwithin
      | year => exact hsame

end Tiled

/-! ### Cursors without a calendar -/

section Alone

variable {σ α β : Type} {timed : α → Timed} {idle : α → Bool}
  {L : Layer σ timed idle β} {start : β → Word} {items : List α} {parts : List (List α × β)}
  {s : Statistic} {points : List Point}

/-- The times of points increase if a later bucket starts later. -/
theorem Layer.CutsInto.pairwise_lt
    (hinc : items.Pairwise fun x y => (timed x).time < (timed y).time)
    (hcut : L.CutsInto items parts)
    (heach : List.Forall₂ (Layer.IsPoint timed start s) parts points)
    (hstart : ∀ a a' x b b', L.Enters a b → L.Enters a' b' → (timed a).time < (timed x).time →
      L.takes b x = false → (timed x).time ≤ (timed a').time → start b < start b') :
    points.Pairwise fun p q => p.time < q.time := by
  have hboth := (List.forall₂_and_left parts points).mpr
    ⟨fun part hpart => hcut.of_mem hpart, heach⟩
  refine pairwise_of_forall₂ hboth (hcut.pairwise_stopped hinc) ?_
  rintro part part' p q ⟨⟨a, rest, hfirst, henters, -⟩, htime, -⟩
    ⟨⟨a', rest', hfirst', henters', -⟩, htime', -⟩ ⟨x, -, hstop, hbefore, hbehind⟩
  rw [htime, htime']
  refine hstart a a' x _ _ henters henters' (hbefore a (hfirst ▸ List.mem_cons_self)) hstop ?_
  rcases hbehind a' (hfirst' ▸ List.mem_cons_self) with hlt | rfl
  · exact Int64.le_of_lt hlt
  · exact Int64.le_refl _

variable [BucketCursor σ]

/-- Under no calendar, a cut is all there is to the points. -/
theorem Layer.CutsInto.tiled (h : L.Lawful)
    (hinc : items.Pairwise fun x y => (timed x).time < (timed y).time)
    (hcut : L.CutsInto items parts)
    (heach : List.Forall₂ (Layer.IsPoint timed start s) parts points) :
    Tiled s [] ((items.filter (!idle ·)).map timed)
      ((items.filter idle).map fun x => (timed x).time)
      (parts.map fun part => part.1.map timed) points where
  flatten_eq := hcut.flatten_map_timed h
  points_eq := by
    rw [List.forall₂_map_left_iff]
    refine ((List.forall₂_and_left parts points).mpr ⟨fun _ hpart => hpart, heach⟩).imp ?_
    rintro part p ⟨hpart, -, hvalue⟩
    refine ⟨by rw [List.map_map]; exact hvalue, fun v hv w hw => ⟨nofun, ?_⟩, nofun⟩
    obtain ⟨y, hy, rfl⟩ := List.mem_map.mp hv
    obtain ⟨z, hz, rfl⟩ := List.mem_map.mp hw
    exact hcut.not_interrupted h hinc hpart hy hz
  divided hne := absurd rfl hne

end Alone

/-! ### Towers -/

namespace AnyCursor

/-- Calendars of UTC above a cursor, the uppermost one first. -/
def tower (us : List CalendarUnit) (base : AnyCursor) : AnyCursor :=
  us.foldr (calendar · Zone.utc ·) base

/-- Fresh grids and runs over samples, with the values that they divide into buckets and the times
at which runs are interrupted. -/
inductive Base (samples : List Sample) : AnyCursor → List Timed → List Word → Prop
  | grid {width offset : Word} {counter : Option Counter} {g : Grid}
    (h : Grid.make (.ofSamples samples) width offset counter = .ok g) :
    Base samples (.grid g) (valuesOf counter samples) []
  | runs (counter : Option Counter) :
    Base samples (.runs (.make (.ofSamples samples) counter))
      (((pairs samples).filter (Runs.isLive counter)).map (Runs.timed counter))
      (((pairs samples).filter (Runs.isIdle counter)).map fun pair => pair.previous.time)

/-- A cursor is a layer that joins the units of these calendars. -/
def Layered {α : Type} (timed : α → Timed) (idle : α → Bool) (us : List CalendarUnit)
    (items : List α) (c : AnyCursor) : Prop :=
  ∃ (β : Type) (L : Layer c.shape.State timed idle β) (withEnd : Word → β → β),
    L.Pinned withEnd ∧ L.Unread c.cursor items ∧ L.JoinsUpTo withEnd us

variable {α : Type} {timed : α → Timed} {idle : α → Bool} {items : List α} {base c : AnyCursor}
  {us : List CalendarUnit} {samples : List Sample} {values : List Timed} {gaps : List Word}

theorem Layered.calendar (h : c.Layered timed idle us items) (u : CalendarUnit) :
    (AnyCursor.calendar u Zone.utc c).Layered timed idle (u :: us) items := by
  obtain ⟨β, L, withEnd, hpinned, hunread, hjoins⟩ := h
  exact ⟨_, CalendarCursor.layer u withEnd L, fun _ b => b, CalendarCursor.pinned hpinned,
    ⟨rfl, rfl, rfl, hunread⟩,
    fun a x b _ henters hle _ => CalendarCursor.joins hjoins a x b henters hle⟩

theorem Layered.tower (h : base.Layered timed idle [] items) (us : List CalendarUnit) :
    (tower us base).Layered timed idle us items := by
  induction us with
  | nil => exact h
  | cons u us ih => exact ih.calendar u

namespace Base

theorem layered (h : Base samples base values gaps) (hinc : Increasing samples) :
    ∃ (α : Type) (timed : α → Timed) (idle : α → Bool) (items : List α),
      base.Layered timed idle [] items ∧
      items.Pairwise (fun x y => (timed x).time < (timed y).time) ∧
      (items.filter (!idle ·)).map timed = values ∧
      ((items.filter idle).map fun x => (timed x).time) = gaps := by
  cases h with
  | @grid width offset counter g h =>
    refine ⟨Timed, fun v => v, fun _ => false, valuesOf counter samples,
      ⟨Word, Grid.layer fun _ _ => True, fun last _ => last, Grid.pinned,
        Grid.unread_of_make h hinc trivial, ?_⟩, pairwise_valuesOf hinc counter, by simp, by simp⟩
    intro v w last last' henters hle hlt
    simp [Grid.layer, hlt]
  | runs counter =>
    refine ⟨Pair, Runs.timed counter, Runs.isIdle counter, pairs samples,
      ⟨Word, Runs.layer counter, fun _ start => start, Runs.pinned, Runs.unread_of_make hinc, ?_⟩,
      pairwise_pairs hinc, by rw [Runs.filter_not_isIdle], rfl⟩
    intro pair pair' start last henters hle hlt
    simp [Runs.layer, Runs.isIdle]

/-- Under no calendar, the times of points increase. -/
theorem exists_tiled (h : Base samples base values gaps) (hinc : Increasing samples)
    {s : Statistic} {points : List Point}
    (hend : (drainBuckets s base.cursor).1 = ⟨points, none⟩) :
    ∃ parts, Tiled s [] values gaps parts points ∧
      points.Pairwise fun p q => p.time < q.time := by
  cases h with
  | @grid width offset counter g h =>
    have hvalues := pairwise_valuesOf hinc counter
    obtain ⟨parts, hcut, heach⟩ := (Grid.dated width offset).exists_cut
      (Grid.unread_of_make h hinc ⟨rfl, rfl⟩) hend
    refine ⟨parts.map fun part => part.1.map fun v => v, ?_,
      hcut.pairwise_lt hvalues heach ?_⟩
    · simpa using hcut.tiled Grid.lawful hvalues heach
    · rintro v v' x last last' ⟨_, _, ⟨rfl, rfl⟩, hends⟩ ⟨_, _, ⟨rfl, rfl⟩, hends'⟩ - hstop hle
      have hlast : last ≤ x.time := Int64.not_lt.mp (of_decide_eq_false hstop)
      exact Grid.startOfEnd_lt hends hends' (Int64.le_trans hlast hle)
  | runs counter =>
    have hpairs : (pairs samples).Pairwise
        fun p q => (Runs.timed counter p).time < (Runs.timed counter q).time := pairwise_pairs hinc
    obtain ⟨parts, hcut, heach⟩ := Runs.dated.exists_cut (Runs.unread_of_make hinc) hend
    refine ⟨parts.map fun part => part.1.map (Runs.timed counter), ?_,
      hcut.pairwise_lt hpairs heach ?_⟩
    · rw [← Runs.filter_not_isIdle]
      exact hcut.tiled Runs.lawful hpairs heach
    · rintro pair pair' x start start' ⟨-, rfl⟩ ⟨-, rfl⟩ hlt - hle
      exact Int64.lt_of_lt_of_le hlt hle

end Base

/-- Whatever a tower of calendars is built on, a drain without a fault gives the statistics of the
longest stretches of values that lie in the same unit of every calendar and that no idle pair
interrupts, at the starts of the units of the uppermost calendar.  So the times of the points do
not decrease.  They increase where nothing but the uppermost calendar divides the values: if there
is no calendar at all, or if there is no gap and no month lies below an uppermost year. -/
theorem points_of_tower (hinc : Increasing samples) (hbase : Base samples base values gaps)
    (us : List CalendarUnit) (s : Statistic) {points : List Point}
    (hend : (drainBuckets s (tower us base).cursor).1 = ⟨points, none⟩) :
    (∃ parts, Tiled s us values gaps parts points) ∧
      points.Pairwise (fun p q => p.time ≤ q.time) ∧
      (us = [] ∨ gaps = [] ∧ (us.head? = some .month ∨ ∀ u ∈ us, u = .year) →
        points.Pairwise fun p q => p.time < q.time) := by
  rcases us with _ | ⟨u, us⟩
  · obtain ⟨parts, htiled, hlt⟩ := hbase.exists_tiled hinc hend
    exact ⟨⟨parts, htiled⟩, hlt.imp Int64.le_of_lt, fun _ => hlt⟩
  · obtain ⟨α, timed, idle, items, hlayered, hitems, rfl, rfl⟩ := hbase.layered hinc
    obtain ⟨β, L, withEnd, hpinned, hunread, hjoins⟩ := hlayered.tower us
    obtain ⟨parts, htiled⟩ := CalendarCursor.exists_tiled (u := u) hpinned hjoins hitems
      ⟨rfl, rfl, rfl, hunread⟩ hend
    have hvalues : ((items.filter (!idle ·)).map timed).Pairwise fun v w => v.time < w.time :=
      List.pairwise_map.mpr (hitems.sublist List.filter_sublist)
    refine ⟨⟨parts, htiled⟩, htiled.pairwise_le hvalues, ?_⟩
    rintro (hnil | ⟨hgaps, hfinest⟩)
    · exact absurd hnil (List.cons_ne_nil u us)
    · rw [hgaps] at htiled
      refine htiled.pairwise_lt hvalues ?_
      rcases hfinest with hhead | hyears
      · exact Or.inl (Option.some.inj hhead)
      · exact Or.inr fun u' hu' => hyears u' (List.mem_cons_of_mem u hu')

/-- Samples with two runs in one month. -/
def twoRuns : List Sample :=
  [⟨0, .whole 0⟩, ⟨10, .whole 1⟩, ⟨20, .whole 0⟩, ⟨30, .whole 2⟩, ⟨40, .whole 0⟩]

/-- Months above these runs. -/
theorem points_of_tower_of_five :
    Increasing twoRuns ∧
    ∃ points, (drainBuckets .sum (tower [.month]
        (.runs (.make (.ofSamples twoRuns) none))).cursor).1 = ⟨points, none⟩ ∧
      (∃ parts, Tiled .sum [.month]
        (((pairs twoRuns).filter (Runs.isLive none)).map (Runs.timed none))
        (((pairs twoRuns).filter (Runs.isIdle none)).map fun pair => pair.previous.time)
        parts points) ∧
      points.Pairwise fun p q => p.time ≤ q.time := by
  have hinc : Increasing twoRuns := by decide
  have hfault : (drainBuckets .sum (tower [.month]
      (.runs (.make (.ofSamples twoRuns) none))).cursor).1.fault = none := by decide +kernel
  obtain ⟨points, hend⟩ := Drained.exists_points hfault
  obtain ⟨htiled, hle, -⟩ := points_of_tower hinc (.runs none) [.month] .sum hend
  exact ⟨hinc, points, hend, htiled, hle⟩

/-- The points of two runs in one month have the same time, and so have those of two months in one
year. -/
theorem time_given_twice :
    (Increasing twoRuns ∧
      ∃ points, (drainBuckets .sum (tower [.month]
          (.runs (.make (.ofSamples twoRuns) none))).cursor).1 = ⟨points, none⟩ ∧
        ¬ points.Pairwise fun p q => p.time < q.time) ∧
    (Increasing [⟨0, .whole 1⟩, ⟨2678400000, .whole 2⟩] ∧
      ∃ g, Grid.make (.ofSamples [⟨0, .whole 1⟩, ⟨2678400000, .whole 2⟩]) 1000 0 none = .ok g ∧
        ∃ points, (drainBuckets .sum (tower [.year, .month] (.grid g)).cursor).1
            = ⟨points, none⟩ ∧
          ¬ points.Pairwise fun p q => p.time < q.time) := by
  have hrepeated : ∀ d : Drained, d.fault = none → d.points.map Point.time = [0, 0] →
      ∃ points, d = ⟨points, none⟩ ∧ ¬ points.Pairwise fun p q => p.time < q.time := by
    intro d hfault htimes
    obtain ⟨points, rfl⟩ := Drained.exists_points hfault
    refine ⟨points, rfl, fun hlt => ?_⟩
    have hincreasing := List.pairwise_map.mpr hlt
    rw [htimes] at hincreasing
    exact absurd hincreasing (by decide)
  exact ⟨⟨by decide, hrepeated _ (by decide +kernel) (by decide +kernel)⟩,
    by decide, _, Grid.make_of_pos (by decide),
    hrepeated _ (by decide +kernel) (by decide +kernel)⟩

end AnyCursor

end TimeBuckets
