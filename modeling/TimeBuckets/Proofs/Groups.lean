/-
Grouping a list by a key.

* `groups` — the items by key, in the order in which keys first come up;
* `Grouped` — points that are the statistics of the groups, one for each key, in order of time;
* `Grouped.unique`, `Grouped.filter` — such points are determined by the items, and leaving out
  all items of some keys leaves out exactly their points;
* `cut` — the items cut into stretches, from left to right, as a walk over buckets does it;
* `groups_eq_cut` — where stretches agree with keys, cutting is grouping.

Grouping looks at all items for each key and cutting looks at neighbours only, so that the two
agree only where no key comes back after another one.
-/
import Mathlib.Data.List.Forall2
import TimeBuckets.Statistic

namespace TimeBuckets

variable {α κ : Type} [DecidableEq κ]

/-! ### Groups -/

/-- The items by their key, one group for each key that comes up, in the order in which the keys
first come up. -/
def groups (key : α → κ) (items : List α) : List (κ × List α) :=
  (items.map key).eraseDups.map fun k => (k, items.filter fun a => key a = k)

theorem groups_nil (key : α → κ) : groups key [] = [] := rfl

/-- The first item founds a group, and the other groups are those of the items with other
keys. -/
theorem groups_cons (key : α → κ) (a : α) (rest : List α) :
    groups key (a :: rest) =
      (key a, a :: rest.filter fun b => key b = key a) ::
        groups key (rest.filter fun b => key b ≠ key a) := by
  rw [groups, List.map_cons, List.eraseDups_cons, List.map_cons,
    List.filter_cons_of_pos (by simp)]
  -- the keys that are left are those of the items with another key
  have hkeys : (rest.map key).filter (fun k => !k == key a)
      = (rest.filter fun b => key b ≠ key a).map key := by
    rw [List.filter_map]
    congr 1
    refine List.filter_congr fun b _ => ?_
    by_cases hb : key b = key a <;> simp [hb]
  rw [hkeys, groups]
  congr 1
  refine List.map_congr_left fun k hk => ?_
  -- such a key is not the first one, so its group does not have the first item
  have hne : k ≠ key a := by
    have hmem : k ∈ (rest.filter fun b => key b ≠ key a).map key := by simpa using hk
    obtain ⟨b, hb, rfl⟩ := List.mem_map.mp hmem
    simpa using (List.mem_filter.mp hb).2
  congr 1
  rw [List.filter_cons_of_neg (by simpa using hne.symm), List.filter_filter]
  refine List.filter_congr fun b _ => ?_
  by_cases hb : key b = k
  · simp [hb, hne]
  · simp [hb]

theorem mem_groups {key : α → κ} {items : List α} {g : κ × List α} (h : g ∈ groups key items) :
    ∃ a ∈ items, key a = g.1 := by
  obtain ⟨k, hk, rfl⟩ := List.mem_map.mp h
  rw [List.mem_eraseDups] at hk
  exact List.mem_map.mp hk

/-- Induction along `groups_cons`: what holds of the items with other keys than the first one
holds of all items. -/
theorem groups_induction (key : α → κ) {motive : List α → Prop} (nil : motive [])
    (cons : ∀ a rest, motive (rest.filter fun b => key b ≠ key a) → motive (a :: rest))
    (items : List α) : motive items := by
  induction hn : items.length using Nat.strongRecOn generalizing items with
  | ind n ih =>
    rcases items with _ | ⟨a, rest⟩
    · exact nil
    · have hle := List.length_filter_le (fun b => decide (key b ≠ key a)) rest
      rw [List.length_cons] at hn
      exact cons a rest (ih _ (by omega) _ rfl)

theorem groups_filter (key : α → κ) (q : κ → Bool) (items : List α) :
    groups key (items.filter fun a => q (key a)) = (groups key items).filter fun g => q g.1 := by
  induction items using groups_induction key with
  | nil => rfl
  | cons a rest ih =>
    -- leaving out items and leaving out the first key commute
    have hothers : (rest.filter fun b => q (key b)).filter (fun b => key b ≠ key a)
        = (rest.filter fun b => key b ≠ key a).filter fun b => q (key b) := by
      rw [List.filter_filter, List.filter_filter]
      exact List.filter_congr fun b _ => Bool.and_comm _ _
    rw [groups_cons]
    by_cases ha : q (key a) = true
    · have hsame : (rest.filter fun b => q (key b)).filter (fun b => key b = key a)
          = rest.filter fun b => key b = key a := by
        rw [List.filter_filter]
        refine List.filter_congr fun b _ => ?_
        by_cases hb : key b = key a <;> simp [hb, ha]
      rw [List.filter_cons_of_pos (p := fun b => q (key b)) ha,
        List.filter_cons_of_pos (by simpa using ha), groups_cons, hsame, hothers, ih]
    · -- no item with the first key is kept
      have hskip : (rest.filter fun b => key b ≠ key a).filter (fun b => q (key b))
          = rest.filter fun b => q (key b) := by
        rw [List.filter_filter]
        refine List.filter_congr fun b _ => ?_
        by_cases hb : key b = key a <;> simp [hb, ha]
      rw [List.filter_cons_of_neg (p := fun b => q (key b)) ha,
        List.filter_cons_of_neg (by simpa using ha), ← ih, hskip]

/-- A relation between items of different keys holds between the keys of groups. -/
theorem pairwise_groups {key : α → κ} {R : κ → κ → Prop} {items : List α}
    (h : items.Pairwise fun a b => key a ≠ key b → R (key a) (key b)) :
    (groups key items).Pairwise fun g g' => R g.1 g'.1 := by
  induction items using groups_induction key with
  | nil => exact List.Pairwise.nil
  | cons a rest ih =>
    obtain ⟨hhead, hrest⟩ := List.pairwise_cons.mp h
    rw [groups_cons]
    refine List.pairwise_cons.mpr ⟨fun g hg => ?_, ih (hrest.filter _)⟩
    obtain ⟨b, hb, hkey⟩ := mem_groups hg
    obtain ⟨hmem, hne⟩ := List.mem_filter.mp hb
    rw [← hkey]
    exact hhead b hmem (Ne.symm (of_decide_eq_true hne))

/-- Items that come from others are grouped like these. -/
theorem groups_map {γ : Type} (key : α → κ) (f : γ → α) (items : List γ) :
    groups key (items.map f) =
      (groups (fun c => key (f c)) items).map fun g => (g.1, g.2.map f) := by
  rw [groups, groups, List.map_map, List.map_map]
  refine List.map_congr_left fun k _ => ?_
  rw [List.filter_map]
  rfl

/-! ### Points of groups -/

/-- The points are the statistics of the groups: one point for each key, at the time of the key,
and the times strictly increase. -/
structure Grouped (s : Statistic) (key : α → κ) (time : κ → Option Word) (value : α → Float)
    (items : List α) (points : List Point) : Prop where
  each : List.Forall₂
    (fun g p => time g.1 = some p.time ∧ s.ofValues? (g.2.map value) = some p.value)
    (groups key items) points
  increasing : points.Pairwise fun p q => p.time < q.time

namespace Grouped

variable {s : Statistic} {key : α → κ} {time : κ → Option Word} {value : α → Float}
  {items : List α} {points points' : List Point}

theorem unique (h : Grouped s key time value items points)
    (h' : Grouped s key time value items points') : points = points' := by
  refine List.right_unique_forall₂' ?_ h.each h'.each
  rintro g p q ⟨ht, hv⟩ ⟨ht', hv'⟩
  rw [ht, Option.some_inj] at ht'
  rw [hv, Option.some_inj] at hv'
  rw [Point.mk.injEq]
  exact ⟨ht', hv'⟩

/-- The points at some times are the points of the items whose key has such a time. -/
theorem filter (h : Grouped s key time value items points) (keep : Word → Bool) :
    Grouped s key time value (items.filter fun a => (time (key a)).any keep)
      (points.filter fun p => keep p.time) := by
  refine ⟨?_, h.increasing.filter _⟩
  rw [groups_filter key fun k => (time k).any keep]
  refine List.rel_filter ?_ h.each
  rintro g p ⟨ht, -⟩
  show (time g.1).any keep = true ↔ keep p.time = true
  rw [ht, Option.any_some]

theorem of_map {γ : Type} {f : γ → α} {items : List γ}
    (h : Grouped s key time value (items.map f) points) :
    Grouped s (fun c => key (f c)) time (fun c => value (f c)) items points := by
  refine ⟨?_, h.increasing⟩
  have heach := h.each
  rw [groups_map, List.forall₂_map_left_iff] at heach
  refine heach.imp fun g p hgp => ?_
  rw [List.map_map] at hgp
  exact hgp

end Grouped

/-! ### Cutting a list into stretches -/

section Cut

variable (idle : α → Bool) (joins : α → α → Bool)

/-- The items cut into stretches, each with its first item: idle items between stretches are left
out, and a stretch goes on as long as items join its first one. -/
def cut : List α → List (α × List α)
  | [] => []
  | a :: rest =>
    if idle a then cut rest
    else (a, rest.takeWhile (joins a)) :: cut (rest.dropWhile (joins a))
termination_by items => items.length
decreasing_by
  · exact Nat.lt_succ_self _
  · exact Nat.lt_succ_of_le (List.dropWhile_sublist _).length_le

variable {idle joins}

theorem cut_nil : cut idle joins [] = [] := by rw [cut]

theorem cut_of_idle {a : α} (h : idle a = true) (rest : List α) :
    cut idle joins (a :: rest) = cut idle joins rest := by
  rw [cut, if_pos h]

theorem cut_of_not_idle {a : α} (h : idle a = false) (rest : List α) :
    cut idle joins (a :: rest) =
      (a, rest.takeWhile (joins a)) :: cut idle joins (rest.dropWhile (joins a)) := by
  rw [cut, if_neg (by simp [h])]

/-- Idle items in front are left out. -/
theorem cut_dropWhile (items : List α) :
    cut idle joins (items.dropWhile idle) = cut idle joins items := by
  induction items with
  | nil => rfl
  | cons a rest ih =>
    by_cases h : idle a = true
    · rw [List.dropWhile_cons_of_pos h, ih, cut_of_idle h]
    · rw [List.dropWhile_cons_of_neg h]

theorem dropWhile_never (items : List α) : items.dropWhile (fun _ => false) = items := by
  rcases items with _ | ⟨a, rest⟩
  · rfl
  · rfl

theorem mem_of_mem_cut {items : List α} {stretch : α × List α}
    (h : stretch ∈ cut idle joins items) : stretch.1 ∈ items := by
  induction items using cut.induct idle joins with
  | case1 => rw [cut_nil] at h; exact absurd h List.not_mem_nil
  | case2 a rest ha ih =>
    rw [cut_of_idle ha] at h
    exact List.mem_cons_of_mem a (ih h)
  | case3 a rest ha ih =>
    rw [cut_of_not_idle (by simpa using ha), List.mem_cons] at h
    rcases h with rfl | h
    · exact List.mem_cons_self
    · exact List.mem_cons_of_mem a ((List.dropWhile_sublist _).mem (ih h))

end Cut

theorem takeWhile_eq_filter {p : α → Bool} {items : List α}
    (h : items.Pairwise fun a b => p b = true → p a = true) :
    items.takeWhile p = items.filter p := by
  induction items with
  | nil => rfl
  | cons a rest ih =>
    obtain ⟨hhead, hrest⟩ := List.pairwise_cons.mp h
    by_cases ha : p a = true
    · rw [List.takeWhile_cons_of_pos ha, List.filter_cons_of_pos ha, ih hrest]
    · rw [List.takeWhile_cons_of_neg ha, List.filter_cons_of_neg ha, eq_comm,
        List.filter_eq_nil_iff]
      exact fun b hb hpb => ha (hhead b hb hpb)

theorem dropWhile_eq_filter {p : α → Bool} {items : List α}
    (h : items.Pairwise fun a b => p b = true → p a = true) :
    items.dropWhile p = items.filter fun a => !p a := by
  induction items with
  | nil => rfl
  | cons a rest ih =>
    obtain ⟨hhead, hrest⟩ := List.pairwise_cons.mp h
    by_cases ha : p a = true
    · rw [List.dropWhile_cons_of_pos ha, List.filter_cons_of_neg (by simp [ha]), ih hrest]
    · rw [List.dropWhile_cons_of_neg ha, List.filter_cons_of_pos (by simp [ha])]
      congr 1
      rw [eq_comm, List.filter_eq_self]
      intro b hb
      rcases hpb : p b with _ | _
      · rfl
      · exact absurd (hhead b hb hpb) ha

/-- Where an item joins an earlier one just if it has the same key, and then so do all items in
between, the stretches are the groups. -/
theorem groups_eq_cut {key : α → κ} {joins : α → α → Bool} {items : List α}
    (hkey : items.Pairwise fun a b => joins a b = true ↔ key b = key a)
    (hclosed : items.Pairwise fun b c => ∀ a, joins a c = true → joins a b = true) :
    groups key items =
      (cut (fun _ => false) joins items).map fun stretch => (key stretch.1, stretch.1 :: stretch.2) := by
  induction items using cut.induct (fun _ => false) joins with
  | case1 => rw [cut_nil, groups_nil, List.map_nil]
  | case2 a rest h => exact absurd h (by decide)
  | case3 a rest h ih =>
    obtain ⟨hjoins, hkey'⟩ := List.pairwise_cons.mp hkey
    obtain ⟨-, hclosed'⟩ := List.pairwise_cons.mp hclosed
    have hclosed'' := hclosed'.imp fun {b c} hbc => hbc a
    -- items that join the first one stand in front of all others, and have its key
    have hsame : rest.takeWhile (joins a) = rest.filter fun b => key b = key a := by
      rw [takeWhile_eq_filter hclosed'']
      refine List.filter_congr fun b hb => ?_
      rw [Bool.eq_iff_iff, hjoins b hb, decide_eq_true_eq]
    have hothers : rest.dropWhile (joins a) = rest.filter fun b => key b ≠ key a := by
      rw [dropWhile_eq_filter hclosed'']
      refine List.filter_congr fun b hb => ?_
      rw [Bool.eq_iff_iff, Bool.not_eq_true', ← Bool.not_eq_true, hjoins b hb, decide_eq_true_eq]
    have hsub := List.dropWhile_sublist (joins a) (l := rest)
    rw [groups_cons, cut_of_not_idle rfl, List.map_cons, ← hsame, ← hothers,
      ih (hkey'.sublist hsub) (hclosed'.sublist hsub)]

/-- Statistics of stretches are the points of groups, where cutting is grouping. -/
theorem Grouped.of_cut {s : Statistic} {key : α → κ} {time : κ → Option Word} {value : α → Float}
    {joins : α → α → Bool} {start : α → Word} {items : List α}
    (hkey : items.Pairwise fun a b => joins a b = true ↔ key b = key a)
    (hclosed : items.Pairwise fun b c => ∀ a, joins a c = true → joins a b = true)
    (htime : ∀ a ∈ items, time (key a) = some (start a))
    (hstart : items.Pairwise fun a b => key a ≠ key b → start a < start b) :
    Grouped s key time value items ((cut (fun _ => false) joins items).map fun stretch =>
      ⟨start stretch.1, s.ofNonempty (value stretch.1) (stretch.2.map value)⟩) := by
  have hgroups := groups_eq_cut hkey hclosed
  refine ⟨?_, ?_⟩
  · rw [hgroups, List.forall₂_map_left_iff, List.forall₂_map_right_iff, List.forall₂_same]
    exact fun stretch h => ⟨htime _ (mem_of_mem_cut h), rfl⟩
  · have hpair : (groups key items).Pairwise fun g g' =>
        ∀ w w', time g.1 = some w → time g'.1 = some w' → w < w' := by
      refine pairwise_groups (R := fun k k' => ∀ w w', time k = some w → time k' = some w' → w < w')
        (hstart.imp_of_mem fun ha hb hlt hne w w' hw hw' => ?_)
      rw [htime _ ha, Option.some_inj] at hw
      rw [htime _ hb, Option.some_inj] at hw'
      rw [← hw, ← hw']
      exact hlt hne
    rw [hgroups, List.pairwise_map] at hpair
    rw [List.pairwise_map]
    refine hpair.imp_of_mem fun h h' hlt => ?_
    exact hlt _ _ (htime _ (mem_of_mem_cut h)) (htime _ (mem_of_mem_cut h'))

end TimeBuckets
