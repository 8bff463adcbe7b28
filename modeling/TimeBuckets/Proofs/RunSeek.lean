/-
Jumping into a run gives what is left of it.

* `filter_cut` — the stretches of a list that begin in its rear part are the stretches of that
  part, less what belongs to a stretch that begins in front;
* `Runs.SplitsRun` — a time between the first and the last sample of a run;
* `Runs.seek_gives_later_runs` — after any requests, jumping to a time and draining gives the
  points of a fresh drain at that time or later, with one more in front just if the time splits a
  run.

The cursor reads nothing before the sample that it jumps to, and so takes the rest of a split run
for a run of its own.
-/
import Mathlib.Data.List.TakeWhile
import TimeBuckets.Proofs.Keeping
import TimeBuckets.Proofs.Runs

namespace TimeBuckets

/-! ### Stretches of the rear part of a list -/

section Cut

variable {α : Type} {live keep : α → Bool} {front rest : List α}

/-- Where a mark is on exactly the items of the rear part, the stretches whose first item is marked
are those of the rear part, less the items in front of it that join a stretch which has begun
before. -/
theorem filter_cut (hfront : ∀ a ∈ front, keep a = false) (hrest : ∀ a ∈ rest, keep a = true) :
    (cut (fun a => !live a) (fun _ => live) (front ++ rest)).filter (fun st => keep st.1) =
      cut (fun a => !live a) (fun _ => live)
        (if front.getLast?.any live then rest.dropWhile live else rest) := by
  have hall : ∀ items : List α, (∀ a ∈ items, keep a = true) →
      (cut (fun a => !live a) (fun _ => live) items).filter (fun stretch => keep stretch.1)
        = cut (fun a => !live a) (fun _ => live) items := fun items hitems =>
    List.filter_eq_self.mpr fun stretch hmem => hitems _ (mem_of_mem_cut hmem)
  induction front using cut.induct (fun a => !live a) fun _ => live with
  | case1 => exact hall rest hrest
  | case2 a front ha ih =>
    have hlast : (a :: front).getLast?.any live = front.getLast?.any live := by
      rcases front with _ | ⟨b, front⟩
      · simpa using ha
      · rw [List.getLast?_cons_cons]
    rw [List.cons_append, @cut_of_idle _ (fun a => !live a) _ a ha, hlast,
      ih fun b hb => hfront b (List.mem_cons_of_mem a hb)]
  | case3 a front ha ih =>
    rw [List.cons_append, @cut_of_not_idle _ (fun a => !live a) _ a (by simpa using ha),
      List.filter_cons_of_neg (by simp [hfront a List.mem_cons_self])]
    by_cases hdrop : front.dropWhile live = []
    -- the first stretch goes on into the rear part, or ends in front of it
    · have hlive : ∀ b ∈ a :: front, live b = true :=
        List.forall_mem_cons.mpr ⟨by simpa using ha, List.dropWhile_eq_nil_iff.mp hdrop⟩
      have hlast : (a :: front).getLast?.any live = true := by
        rw [List.getLast?_eq_some_getLast (List.cons_ne_nil a front), Option.any_some]
        exact hlive _ (List.getLast_mem _)
      rw [List.dropWhile_append_of_pos fun b hb => hlive b (List.mem_cons_of_mem a hb), hlast,
        if_pos rfl]
      exact hall _ fun b hb => hrest b ((List.dropWhile_sublist live).subset hb)
    · have hlast : (a :: front).getLast? = (front.dropWhile live).getLast? := by
        obtain ⟨joined, happend⟩ :=
          (List.dropWhile_suffix live (l := front)).trans (List.suffix_cons a front)
        rw [← happend, List.getLast?_append_of_ne_nil _ hdrop]
      rw [List.dropWhile_append, if_neg (by simpa using hdrop), hlast]
      exact ih fun b hb =>
        hfront b (List.mem_cons_of_mem a ((List.dropWhile_sublist live).subset hb))

end Cut

namespace Runs

variable {samples : List Sample} {counter : Option Counter} {r : Runs}

/-- The time lies behind the first sample of a live pair, and not behind that of the next pair,
which is live as well. -/
structure SplitsRun (counter : Option Counter) (samples : List Sample) (time : Word) (i : Nat) :
    Prop where
  live_before : liveAt (isLive counter) (pairs samples) i = true
  live_behind : liveAt (isLive counter) (pairs samples) (i + 1) = true
  before : ∀ a ∈ samples[i]?, a.time < time
  behind : ∀ a ∈ samples[i + 1]?, time ≤ a.time

/-- A jump leaves the samples at the time or later, wherever the cursor was. -/
theorem seek_of_rewound (hinc : Increasing samples)
    (h : r.rewound = make (.ofSamples samples) counter) (time : Word) :
    ∃ r', reposition time r = .ok () r' ∧ r'.phase = .unread ∧ r'.feed.readFaults = [] ∧
      r'.counter = counter ∧ r'.feed.remaining = samples.filter fun a => time ≤ a.time := by
  have hfeed : r.feed.rewound = .ofSamples samples := congrArg Runs.feed h
  obtain ⟨feed, hseek, hremaining⟩ := Feed.seek_eq (f := r.feed) hinc
    (congrArg Feed.samples hfeed) (congrArg Feed.seekFault hfeed) time
  have hkept := keeps_reposition time r h
  rw [after_of_ok (reposition_of_ok hseek)] at hkept
  exact ⟨_, reposition_of_ok hseek, rfl, congrArg (fun r₀ : Runs => r₀.feed.readFaults) hkept,
    congrArg Runs.counter hkept, hremaining⟩

/-- The points of runs of pairs. -/
def runPoints (counter : Option Counter) (s : Statistic) (items : List Pair) : List Point :=
  ((walk counter).stretches items).map ((walk counter).point s)

theorem gives_of_unread (hphase : r.phase = .unread) (hf : r.feed.readFaults = [])
    (hcounter : r.counter = counter) (hinc : Increasing r.feed.remaining)
    (hclocked : Clocked counter r.feed.remaining) (s : Statistic) (interval : Interval)
    (latest : Option Point) :
    (Resampler.mk r s interval latest).Gives
      (runPoints counter s (pairs r.feed.remaining)) := by
  have hlen : (pairs r.feed.remaining).length ≤ pending r := by
    rw [pending, hphase, Feed.left_eq, length_pairs]
    exact Nat.sub_le _ _
  obtain rfl := hcounter
  exact Walk.gives (r := ⟨r, s, interval, latest⟩) (starts_of_unread hphase hf hinc hclocked) hlen

/-- The pairs that start before a time. -/
def early (samples : List Sample) (time : Word) : List Pair :=
  (pairs samples).filter fun pair => !decide (time ≤ pair.previous.time)

/-- The pairs that start at a time or later. -/
def late (samples : List Sample) (time : Word) : List Pair :=
  (pairs samples).filter fun pair => time ≤ pair.previous.time

theorem early_append_late (hinc : Increasing samples) (time : Word) :
    early samples time ++ late samples time = pairs samples := by
  have hclosed : (pairs samples).Pairwise fun p q =>
      (!decide (time ≤ q.previous.time)) = true → (!decide (time ≤ p.previous.time)) = true := by
    refine (pairwise_pairs hinc).imp fun {p q} hpq hq => ?_
    rw [Bool.not_eq_true', decide_eq_false_iff_not, Int64.not_le] at hq ⊢
    exact Int64.lt_trans hpq hq
  have hlate : late samples time
      = (pairs samples).dropWhile fun pair => !decide (time ≤ pair.previous.time) := by
    rw [dropWhile_eq_filter hclosed, late]
    simp only [Bool.not_not]
  rw [early, ← takeWhile_eq_filter hclosed, hlate, List.takeWhile_append_dropWhile]

/-- The runs that start at a time or later are those of the pairs from there on, less the pairs in
front that belong to a run which has started before. -/
theorem filter_runPoints (hinc : Increasing samples) (counter : Option Counter) (s : Statistic)
    (time : Word) :
    (runPoints counter s (pairs samples)).filter (fun p => time ≤ p.time) =
      runPoints counter s (if (early samples time).getLast?.any (isLive counter) then
        (late samples time).dropWhile (isLive counter) else late samples time) := by
  have hcut := @filter_cut Pair (isLive counter) (fun pair => decide (time ≤ pair.previous.time))
    (early samples time) (late samples time)
    (fun pair hpair => by simpa using (List.mem_filter.mp hpair).2)
    (fun pair hpair => (List.mem_filter.mp hpair).2)
  rw [early_append_late hinc] at hcut
  rw [runPoints, runPoints, List.filter_map]
  exact congrArg (List.map ((walk counter).point s)) hcut

theorem runPoints_cons {pair : Pair} (h : isLive counter pair = true) (s : Statistic)
    (rest : List Pair) :
    runPoints counter s (pair :: rest) =
      (walk counter).point s (pair, rest.takeWhile (isLive counter)) ::
        runPoints counter s (rest.dropWhile (isLive counter)) := by
  have hidle : (walk counter).idle pair = false := by
    show (!isLive counter pair) = false
    rw [h]
    rfl
  exact congrArg (List.map ((walk counter).point s)) (cut_of_not_idle hidle rest)

/-! ### Times that split a run -/

theorem time_of_mem_early {time : Word} {pair : Pair} (h : pair ∈ early samples time) :
    pair.previous.time < time := by
  have hnot := (List.mem_filter.mp h).2
  rw [Bool.not_eq_true', decide_eq_false_iff_not] at hnot
  exact Int64.not_le.mp hnot

theorem time_of_mem_late {time : Word} {pair : Pair} (h : pair ∈ late samples time) :
    time ≤ pair.previous.time := of_decide_eq_true (List.mem_filter.mp h).2

/-- The pair at the end of the early ones, and the one at the start of the late ones. -/
theorem liveAt_early (counter : Option Counter) (hinc : Increasing samples) {time : Word} {i : Nat}
    (hlen : (early samples time).length = i + 1) :
    liveAt (isLive counter) (pairs samples) i
        = (early samples time).getLast?.any (isLive counter) ∧
      liveAt (isLive counter) (pairs samples) (i + 1)
        = (late samples time).head?.any (isLive counter) := by
  rw [← early_append_late hinc time]
  refine ⟨?_, ?_⟩
  · rw [liveAt, List.getElem?_append_left (by omega), List.getLast?_eq_getElem?, hlen,
      Nat.add_sub_cancel]
  · rw [← hlen, ← Nat.add_zero (early samples time).length, liveAt_append, liveAt,
      List.head?_eq_getElem?]

/-- A time splits a run just if the last early pair and the first late one are live. -/
theorem splitsRun_iff (hinc : Increasing samples) {time : Word} {i : Nat} :
    SplitsRun counter samples time i ↔ (early samples time).length = i + 1 ∧
      (early samples time).getLast?.any (isLive counter) = true ∧
      (late samples time).head?.any (isLive counter) = true := by
  have hsplit := early_append_late hinc time
  have hmem : ∀ {j : Nat} {pair : Pair}, (pairs samples)[j]? = some pair →
      (j < (early samples time).length → pair.previous.time < time) ∧
      ((early samples time).length ≤ j → time ≤ pair.previous.time) := by
    intro j pair hj
    rw [← hsplit] at hj
    refine ⟨fun hlt => ?_, fun hle => ?_⟩
    · rw [List.getElem?_append_left hlt] at hj
      exact time_of_mem_early (List.mem_of_getElem? hj)
    · rw [List.getElem?_append_right hle] at hj
      exact time_of_mem_late (List.mem_of_getElem? hj)
  constructor
  · intro h
    obtain ⟨p, hp, -⟩ := (Option.any_eq_true ..).mp h.live_before
    obtain ⟨q, hq, -⟩ := (Option.any_eq_true ..).mp h.live_behind
    have hbefore := h.before p.previous (getElem?_of_pairs hp).1
    have hbehind := h.behind q.previous (getElem?_of_pairs hq).1
    have hlow : i < (early samples time).length :=
      Nat.not_le.mp fun hle => Int64.not_lt.mpr ((hmem hp).2 hle) hbefore
    have hhigh : (early samples time).length ≤ i + 1 :=
      Nat.not_lt.mp fun hlt => Int64.not_lt.mpr hbehind ((hmem hq).1 hlt)
    have hlen : (early samples time).length = i + 1 := by omega
    obtain ⟨hlast, hfirst⟩ := liveAt_early counter hinc hlen
    exact ⟨hlen, hlast ▸ h.live_before, hfirst ▸ h.live_behind⟩
  · rintro ⟨hlen, hlast, hfirst⟩
    obtain ⟨hbefore, hbehind⟩ := liveAt_early counter hinc hlen
    rw [hlast] at hbefore
    rw [hfirst] at hbehind
    obtain ⟨p, hp, -⟩ := (Option.any_eq_true ..).mp hbefore
    obtain ⟨q, hq, -⟩ := (Option.any_eq_true ..).mp hbehind
    refine ⟨hbefore, hbehind, fun a ha => ?_, fun a ha => ?_⟩
    · rw [(getElem?_of_pairs hp).1, Option.mem_some_iff] at ha
      rw [← ha]
      exact (hmem hp).1 (by omega)
    · rw [(getElem?_of_pairs hq).1, Option.mem_some_iff] at ha
      rw [← ha]
      exact (hmem hq).2 (by omega)

/-- The runs of the late pairs are those that start at the time or later, if no run is split. -/
theorem runPoints_late_of_not_splits {time : Word} (hinc : Increasing samples) (s : Statistic)
    (h : ∀ i, ¬ SplitsRun counter samples time i) :
    runPoints counter s (late samples time)
      = (runPoints counter s (pairs samples)).filter fun p => time ≤ p.time := by
  rw [filter_runPoints hinc]
  by_cases hlast : (early samples time).getLast?.any (isLive counter) = true
  · rw [if_pos hlast]
    rcases hlate : late samples time with _ | ⟨pair, rest⟩
    · rfl
    · -- a run that has begun before ends before, since the first late pair would split it
      have hne : early samples time ≠ [] := by
        intro hnil
        rw [hnil] at hlast
        exact absurd hlast Bool.false_ne_true
      have hlen := List.length_pos_of_ne_nil hne
      have hidle : ¬ isLive counter pair = true := fun hlive =>
        h ((early samples time).length - 1) ((splitsRun_iff hinc).mpr
          ⟨by omega, hlast, by rwa [hlate, List.head?_cons, Option.any_some]⟩)
      rw [List.dropWhile_cons_of_neg hidle]
  · rw [if_neg hlast]

/-- Otherwise the first of them is what is left of the run that is split. -/
theorem runPoints_late_of_splits {time : Word} {i : Nat} (hinc : Increasing samples)
    (h : SplitsRun counter samples time i) (s : Statistic) :
    ∃ p, runPoints counter s (late samples time)
        = p :: (runPoints counter s (pairs samples)).filter (fun p => time ≤ p.time) ∧
      samples[i + 1]?.map Sample.time = some p.time ∧
      s.ofValues? ((((pairs samples).drop (i + 1)).takeWhile (isLive counter)).map
        (amount counter)) = some p.value := by
  obtain ⟨hlen, hlast, hfirst⟩ := (splitsRun_iff hinc).mp h
  have hdrop : (pairs samples).drop (i + 1) = late samples time := by
    rw [← early_append_late hinc time, ← hlen, List.drop_left]
  rw [filter_runPoints hinc, if_pos hlast, hdrop]
  rcases hlate : late samples time with _ | ⟨pair, rest⟩
  · rw [hlate] at hfirst
    exact absurd hfirst Bool.false_ne_true
  · rw [hlate, List.head?_cons, Option.any_some] at hfirst
    have hget : (pairs samples)[i + 1]? = some pair := by
      rw [← List.head?_drop, hdrop, hlate, List.head?_cons]
    rw [runPoints_cons hfirst, List.dropWhile_cons_of_pos hfirst,
      List.takeWhile_cons_of_pos hfirst]
    refine ⟨_, rfl, ?_, rfl⟩
    rw [(getElem?_of_pairs hget).1]
    rfl

/-- If the time between neighbours can be told: after any requests to a resampler over a fresh
cursor, whatever their results, a jump succeeds for every time.  Draining then gives exactly the points of a fresh drain at that time or later, if
the time splits no run.  If it does, one more point comes first: it stands at the first sample from
the time on, and sums up what is left of the run. -/
theorem seek_gives_later_runs (hinc : Increasing samples) (hclocked : Clocked counter samples)
    (s : Statistic) (interval : Interval) :
    ∃ points, (Resampler.mk (make (.ofSamples samples) counter) s interval none).Gives points ∧
      ∀ (requests : List Request) (time : Word), ∃ r' points',
        Resampler.seek time
            ((Resampler.mk (make (.ofSamples samples) counter) s interval none).handleAll requests)
          = .ok () r' ∧
        r'.Gives points' ∧
        ((∀ i, ¬ SplitsRun counter samples time i) →
          points' = points.filter fun p => time ≤ p.time) ∧
        ∀ i, SplitsRun counter samples time i → ∃ p,
          points' = p :: points.filter (fun p => time ≤ p.time) ∧
          samples[i + 1]?.map Sample.time = some p.time ∧
          s.ofValues? ((((pairs samples).drop (i + 1)).takeWhile (isLive counter)).map
            (amount counter)) = some p.value := by
  have hremaining := Feed.remaining_ofSamples samples
  have hcounter : (make (.ofSamples samples) counter).counter = counter := rfl
  have hfresh := gives_of_unread rfl rfl hcounter (by rwa [make, hremaining])
    (by rwa [make, hremaining]) s interval none
  rw [make, hremaining] at hfresh
  refine ⟨_, hfresh, fun requests time => ?_⟩
  obtain ⟨hrewound, hstatistic⟩ := (Runs.kept (· = make (.ofSamples samples) counter)).handleAll
    (r := ⟨make (.ofSamples samples) counter, s, interval, none⟩) rfl requests
  generalize (Resampler.mk (make (.ofSamples samples) counter) s interval none).handleAll requests
    = r at hrewound hstatistic ⊢
  obtain ⟨r₁, hseek, hphase, hf, hkept, hrem⟩ := seek_of_rewound hinc hrewound time
  have hgives := gives_of_unread hphase hf hkept (by rw [hrem]; exact hinc.filter _)
    (by rw [hrem]; exact hclocked.of_suffix (suffix_filter hinc time)) s r.interval r.latest
  rw [hrem, pairs_filter hinc] at hgives
  refine ⟨{ r with cursor := r₁ }, _, Resampler.onCursor_of_ok hseek, ?_,
    runPoints_late_of_not_splits hinc s, fun i hi => runPoints_late_of_splits hinc hi s⟩
  obtain ⟨cursor, statistic, interval', latest⟩ := r
  obtain rfl : statistic = s := hstatistic
  exact hgives

/-- Readings 5, 7, 0 and 3, in which the time 10 splits no run. -/
theorem seek_gives_later_runs_of_four :
    ∃ points, (Resampler.mk (make (.ofSamples [⟨0, .whole 5⟩, ⟨10, .whole 7⟩, ⟨20, .whole 0⟩,
        ⟨30, .whole 3⟩]) none) .sum ⟨1, .run⟩ none).Gives points ∧
      ∀ (requests : List Request) (time : Word), ∃ r' points',
        Resampler.seek time ((Resampler.mk (make (.ofSamples [⟨0, .whole 5⟩, ⟨10, .whole 7⟩,
            ⟨20, .whole 0⟩, ⟨30, .whole 3⟩]) none) .sum ⟨1, .run⟩ none).handleAll requests)
          = .ok () r' ∧
        r'.Gives points' ∧
        ((∀ i, ¬ SplitsRun none [⟨0, .whole 5⟩, ⟨10, .whole 7⟩, ⟨20, .whole 0⟩, ⟨30, .whole 3⟩]
            time i) →
          points' = points.filter fun p => time ≤ p.time) ∧
        ∀ i, SplitsRun none [⟨0, .whole 5⟩, ⟨10, .whole 7⟩, ⟨20, .whole 0⟩, ⟨30, .whole 3⟩]
            time i → ∃ p,
          points' = p :: points.filter (fun p => time ≤ p.time) ∧
          [(⟨0, .whole 5⟩ : Sample), ⟨10, .whole 7⟩, ⟨20, .whole 0⟩, ⟨30, .whole 3⟩][i + 1]?.map
            Sample.time = some p.time ∧
          Statistic.ofValues? .sum ((((pairs [⟨0, .whole 5⟩, ⟨10, .whole 7⟩, ⟨20, .whole 0⟩,
            ⟨30, .whole 3⟩]).drop (i + 1)).takeWhile (isLive none)).map
              (amount none)) = some p.value :=
  seek_gives_later_runs (by decide) (clocked_none _) .sum ⟨1, .run⟩

/-- Four ones are a single run that starts at 0, and a jump to 10 gives a point for the rest of
it. -/
theorem seek_splits_run_of_ones :
    ¬ ∃ points r', (Resampler.mk (make (.ofSamples [⟨0, .whole 1⟩, ⟨10, .whole 1⟩, ⟨20, .whole 1⟩,
        ⟨30, .whole 1⟩]) none) .sum ⟨10, .run⟩ none).Gives points ∧
      Resampler.seek 10 (Resampler.mk (make (.ofSamples [⟨0, .whole 1⟩, ⟨10, .whole 1⟩,
        ⟨20, .whole 1⟩, ⟨30, .whole 1⟩]) none) .sum ⟨10, .run⟩ none) = .ok () r' ∧
      r'.Gives (points.filter fun p => 10 ≤ p.time) := by
  rintro ⟨points, r', ⟨last, hdrain, -⟩, hseek, ⟨last', hdrain', -⟩⟩
  have htimes : (Resampler.mk (make (.ofSamples [⟨0, .whole 1⟩, ⟨10, .whole 1⟩, ⟨20, .whole 1⟩,
      ⟨30, .whole 1⟩]) none) .sum ⟨10, .run⟩ none).drainAll.1.points.map Point.time = [0] := by
    decide +kernel
  have htimes' : (match Resampler.seek 10 (Resampler.mk (make (.ofSamples [⟨0, .whole 1⟩,
        ⟨10, .whole 1⟩, ⟨20, .whole 1⟩, ⟨30, .whole 1⟩]) none) .sum ⟨10, .run⟩ none) with
      | .ok _ r => r.drainAll.1.points.map Point.time
      | .error _ _ => []) = [10] := by
    decide +kernel
  rw [hdrain] at htimes
  rw [hseek] at htimes'
  simp only [hdrain'] at htimes'
  -- the only point of the fresh drain is too early, so that nothing should be left
  have hnone : (points.filter fun p => 10 ≤ p.time).map Point.time
      = (points.map Point.time).filter fun time => 10 ≤ time := by
    rw [List.filter_map]
    rfl
  rw [htimes', htimes] at hnone
  exact absurd hnone (by decide)

end Runs

end TimeBuckets
