/-
Stretches as spans of indices.

* `MaximalRun` — indices that are live without a break, and whose neighbours are not;
* `exists_spans` — the stretches of live items into which `cut` cuts a list stand exactly at the
  maximal runs of live indices.

The induction is on `cut`: the list is an idle item or a whole stretch in front of a rest whose
runs are known, and `maximalRun_shift` moves these by the length of what is in front.
-/
import TimeBuckets.Proofs.Groups

namespace TimeBuckets

/-- The indices from `first` up to but not including `last` are live, and their neighbours are
not. -/
structure MaximalRun (live : Nat → Bool) (first last : Nat) : Prop where
  nonempty : first < last
  inside : ∀ i, first ≤ i → i < last → live i = true
  before : first = 0 ∨ live (first - 1) = false
  behind : live last = false

/-- Runs behind an index that is not live, or that does not follow a live one, are runs of what
is behind it. -/
theorem maximalRun_shift {live rest : Nat → Bool} {k first last : Nat}
    (hrest : ∀ i, rest i = live (k + i)) (hk : k = 0 ∨ live (k - 1) = false ∨ live k = false) :
    MaximalRun rest first last ↔ MaximalRun live (k + first) (k + last) := by
  constructor
  · intro h
    refine ⟨?_, fun i hi hi' => ?_, ?_, ?_⟩
    · exact Nat.add_lt_add_left h.nonempty k
    · have hi'' := h.inside (i - k) (by omega) (by omega)
      rwa [hrest, show k + (i - k) = i by omega] at hi''
    · rcases h.before with rfl | hbefore
      · rcases hk with rfl | hk | hk
        · exact Or.inl rfl
        · exact Or.inr hk
        · have hzero := h.inside 0 (Nat.le_refl 0) h.nonempty
          rw [hrest, Nat.add_zero, hk] at hzero
          exact absurd hzero (by decide)
      · rcases Nat.eq_zero_or_pos first with rfl | hpos
        · have hzero := h.inside 0 (Nat.le_refl 0) h.nonempty
          rw [Nat.zero_sub, hzero] at hbefore
          exact absurd hbefore (by decide)
        · rw [hrest, show k + (first - 1) = k + first - 1 by omega] at hbefore
          exact Or.inr hbefore
    · have hbehind := h.behind
      rwa [hrest] at hbehind
  · intro h
    refine ⟨?_, fun i hi hi' => ?_, ?_, ?_⟩
    · have hlt := h.nonempty
      omega
    · rw [hrest]
      exact h.inside (k + i) (by omega) (by omega)
    · rcases Nat.eq_zero_or_pos first with rfl | hpos
      · exact Or.inl rfl
      · rcases h.before with hzero | hbefore
        · omega
        · refine Or.inr ?_
          rwa [hrest, show k + (first - 1) = k + first - 1 by omega]
    · rw [hrest]
      exact h.behind

variable {α : Type}

/-- Whether the item at an index is live. -/
def liveAt (live : α → Bool) (items : List α) (i : Nat) : Bool := items[i]?.any live

theorem liveAt_append (live : α → Bool) (front rest : List α) (i : Nat) :
    liveAt live (front ++ rest) (front.length + i) = liveAt live rest i := by
  rw [liveAt, List.getElem?_append_right (Nat.le_add_right _ _), Nat.add_sub_cancel_left, liveAt]

theorem liveAt_front {live : α → Bool} {front : List α} (h : ∀ a ∈ front, live a = true)
    (rest : List α) {i : Nat} (hi : i < front.length) :
    liveAt live (front ++ rest) i = true := by
  rw [liveAt, List.getElem?_append_left hi, List.getElem?_eq_getElem hi, Option.any_some]
  exact h _ (List.getElem_mem hi)

/-- What is not live where the list begins or ends is idle. -/
theorem liveAt_length {live : α → Bool} {front rest : List α}
    (h : ∀ a ∈ rest.head?, live a = false) :
    liveAt live (front ++ rest) front.length = false := by
  have hzero := liveAt_append live front rest 0
  rw [Nat.add_zero] at hzero
  rw [hzero, liveAt]
  rcases rest with _ | ⟨a, rest⟩
  · rfl
  · exact h a rfl

/-- The items of a span. -/
def slice (items : List α) (span : Nat × Nat) : List α := (items.take span.2).drop span.1

/-- A span moved by some places. -/
def moved (k : Nat) (span : Nat × Nat) : Nat × Nat := (k + span.1, k + span.2)

theorem slice_moved (front rest : List α) (span : Nat × Nat) :
    slice (front ++ rest) (moved front.length span) = slice rest span := by
  rw [slice, moved, List.take_length_add_append, List.drop_length_add_append, slice]

theorem getElem?_of_slice {items rest : List α} {span : Nat × Nat} {a : α}
    (h : slice items span = a :: rest) : items[span.1]? = some a := by
  have hhead := congrArg List.head? h
  rw [slice, List.head?_drop, List.head?_cons] at hhead
  obtain ⟨hlen, -⟩ := List.getElem?_eq_some_iff.mp hhead
  rw [List.length_take] at hlen
  rwa [List.getElem?_take_of_lt (by omega)] at hhead

/-- The spans stand for the maximal runs of the items, in order. -/
structure SpansOf (live : α → Bool) (items : List α) (spans : List (Nat × Nat)) : Prop where
  apart : spans.Pairwise fun x y => x.2 < y.1
  mem_iff : ∀ first last, (first, last) ∈ spans ↔ MaximalRun (liveAt live items) first last

theorem mem_map_moved {k first last : Nat} {spans : List (Nat × Nat)} :
    (first, last) ∈ spans.map (moved k) ↔
      k ≤ first ∧ k ≤ last ∧ (first - k, last - k) ∈ spans := by
  rw [List.mem_map]
  constructor
  · rintro ⟨⟨x, y⟩, hmem, heq⟩
    rw [moved, Prod.mk.injEq] at heq
    obtain ⟨rfl, rfl⟩ := heq
    simpa using hmem
  · rintro ⟨hfirst, hlast, hmem⟩
    refine ⟨_, hmem, ?_⟩
    rw [moved, Prod.mk.injEq]
    omega

theorem pairwise_map_moved {k : Nat} {spans : List (Nat × Nat)}
    (h : spans.Pairwise fun x y => x.2 < y.1) :
    (spans.map (moved k)).Pairwise fun x y => x.2 < y.1 := by
  rw [List.pairwise_map]
  exact h.imp fun hxy => Nat.add_lt_add_left hxy k

namespace SpansOf

variable {live : α → Bool} {rest : List α} {spans : List (Nat × Nat)}

/-- The runs of a list that begins with an idle item are those of the rest. -/
theorem cons_idle {a : α} (h : SpansOf live rest spans) (ha : live a = false) :
    SpansOf live (a :: rest) (spans.map (moved 1)) := by
  have hzero : liveAt live (a :: rest) 0 = false := ha
  have hshift : ∀ first last, MaximalRun (liveAt live rest) first last ↔
      MaximalRun (liveAt live (a :: rest)) (1 + first) (1 + last) := fun first last =>
    maximalRun_shift (fun i => (liveAt_append live [a] rest i).symm) (Or.inr (Or.inl hzero))
  refine ⟨pairwise_map_moved h.apart, fun first last => ?_⟩
  rw [mem_map_moved, h.mem_iff, hshift]
  constructor
  · rintro ⟨hfirst, hlast, hrun⟩
    rwa [Nat.add_sub_cancel' hfirst, Nat.add_sub_cancel' hlast] at hrun
  · intro hrun
    have hlt := hrun.nonempty
    -- the idle item is in no run
    have hfirst : 1 ≤ first := by
      rcases Nat.eq_zero_or_pos first with rfl | hpos
      · exact absurd (hrun.inside 0 (Nat.le_refl 0) hlt) (by rw [hzero]; decide)
      · exact hpos
    have hlast : 1 ≤ last := by omega
    refine ⟨hfirst, hlast, ?_⟩
    rwa [Nat.add_sub_cancel' hfirst, Nat.add_sub_cancel' hlast]

/-- Live items in front of an idle one, or of none, make one more run. -/
theorem append_live {front : List α} (h : SpansOf live rest spans) (hne : front ≠ [])
    (hfront : ∀ a ∈ front, live a = true) (hrest : ∀ a ∈ rest.head?, live a = false) :
    SpansOf live (front ++ rest) ((0, front.length) :: spans.map (moved front.length)) := by
  have hlive := fun i => liveAt_front (i := i) hfront rest
  have hedge : liveAt live (front ++ rest) front.length = false := liveAt_length hrest
  have hshift : ∀ first last, MaximalRun (liveAt live rest) first last ↔
      MaximalRun (liveAt live (front ++ rest)) (front.length + first) (front.length + last) :=
    fun first last => maximalRun_shift (fun i => (liveAt_append live front rest i).symm)
      (Or.inr (Or.inr hedge))
  generalize hk : front.length = k at hlive hedge hshift ⊢
  have hpos : 0 < k := hk ▸ List.length_pos_of_ne_nil hne
  refine ⟨List.pairwise_cons.mpr ⟨?_, pairwise_map_moved h.apart⟩, fun first last => ?_⟩
  · rintro ⟨first, last⟩ hmem
    obtain ⟨hfirst, hlast, hspan⟩ := mem_map_moved.mp hmem
    have hrun := (hshift _ _).mp ((h.mem_iff _ _).mp hspan)
    rw [Nat.add_sub_cancel' hfirst, Nat.add_sub_cancel' hlast] at hrun
    -- a run of the rest cannot start with it, since its first item is idle
    rcases Nat.lt_or_eq_of_le hfirst with hlt | rfl
    · exact hlt
    · exact absurd (hrun.inside k (Nat.le_refl k) hrun.nonempty) (by rw [hedge]; decide)
  · rw [List.mem_cons, mem_map_moved, h.mem_iff, hshift, Prod.mk.injEq]
    constructor
    · rintro (⟨rfl, rfl⟩ | ⟨hfirst, hlast, hrun⟩)
      · exact ⟨hpos, fun i _ hi => hlive i hi, Or.inl rfl, hedge⟩
      · rwa [Nat.add_sub_cancel' hfirst, Nat.add_sub_cancel' hlast] at hrun
    · intro hrun
      have hlt := hrun.nonempty
      by_cases hfirst : first < k
      -- a run that begins in front begins at the first index and ends where the front does
      · refine Or.inl ⟨?_, ?_⟩
        · rcases hrun.before with hzero | hbefore
          · exact hzero
          · rw [hlive (first - 1) (by omega)] at hbefore
            exact absurd hbefore (by decide)
        · rcases Nat.lt_trichotomy last k with hlast | heq | hlast
          · exact absurd hrun.behind (by rw [hlive last hlast]; decide)
          · exact heq
          · exact absurd (hrun.inside k (by omega) hlast) (by rw [hedge]; decide)
      · refine Or.inr ⟨by omega, by omega, ?_⟩
        rwa [Nat.add_sub_cancel' (by omega), Nat.add_sub_cancel' (by omega)]

end SpansOf

theorem spansOf_nil (live : α → Bool) : SpansOf live [] [] := by
  refine ⟨List.Pairwise.nil, fun first last => ⟨nofun, fun h => ?_⟩⟩
  exact absurd (h.inside first (Nat.le_refl _) h.nonempty) (by simp [liveAt])

/-- The stretches of live items stand exactly at the maximal runs of live indices. -/
theorem exists_spans (live : α → Bool) (items : List α) :
    ∃ spans, SpansOf live items spans ∧
      List.Forall₂ (fun span stretch => slice items span = stretch.1 :: stretch.2) spans
        (cut (fun a => !live a) (fun _ => live) items) := by
  induction items using cut.induct (fun a => !live a) fun _ => live with
  | case1 =>
    rw [cut_nil]
    exact ⟨[], spansOf_nil live, List.Forall₂.nil⟩
  | case2 a rest ha ih =>
    obtain ⟨spans, hspans, heach⟩ := ih
    rw [@cut_of_idle _ (fun a => !live a) _ a ha]
    refine ⟨spans.map (moved 1), hspans.cons_idle (by simpa using ha), ?_⟩
    rw [List.forall₂_map_left_iff]
    refine heach.imp fun span stretch h => ?_
    rw [← h]
    exact slice_moved [a] rest span
  | case3 a rest ha ih =>
    obtain ⟨spans, hspans, heach⟩ := ih
    have hlive : live a = true := by simpa using ha
    -- the stretch is what stands in front, up to the first idle item
    have hsplit : a :: rest = (a :: rest.takeWhile live) ++ rest.dropWhile live := by
      rw [List.cons_append, List.takeWhile_append_dropWhile]
    have hfront : ∀ b ∈ a :: rest.takeWhile live, live b = true := by
      intro b hb
      rcases List.mem_cons.mp hb with rfl | hb
      · exact hlive
      · exact List.all_eq_true.mp List.all_takeWhile b hb
    have hrest : ∀ b ∈ (rest.dropWhile live).head?, live b = false := by
      intro b hb
      have hnot := List.head?_dropWhile_not live rest
      rw [hb] at hnot
      exact hnot
    have hall := hspans.append_live (List.cons_ne_nil _ _) hfront hrest
    rw [← hsplit] at hall
    rw [@cut_of_not_idle _ (fun a => !live a) _ a (by simpa using ha)]
    refine ⟨_, hall, List.Forall₂.cons ?_ ?_⟩
    · rw [slice, hsplit, List.take_left, List.drop_zero]
    · rw [List.forall₂_map_left_iff]
      refine heach.imp fun span stretch h => ?_
      rw [← h]
      conv_lhs => rw [hsplit]
      exact slice_moved _ _ span

end TimeBuckets
