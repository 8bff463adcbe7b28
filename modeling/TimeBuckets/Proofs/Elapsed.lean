/-
The time between the samples that a counter compares.

* `Pair.elapsed` — the exact time from the first sample of a pair to the second;
* `Counter.Measures` — a time that a word holds is measured exactly, and a longer one is a fault;
* `Counter.measures_of_ordered` — so it is for all samples that are in order;
* `Counter.measures_compared` — and so for all that cursors of any shape compare, after any calls.

Only the order of two times is checked.  The time between them needs one bit more than a word has, and
a counter that only goes up asks for it even if no rate is too high for it.
-/
import TimeBuckets.Proofs.Following

namespace TimeBuckets

/-- The exact time from the first sample to the second. -/
def Pair.elapsed (pair : Pair) : Int := pair.current.since pair.previous

namespace Counter

variable {c : Counter} {pair : Pair}

/-- The time between the samples is positive.  If a word holds it, a counter that only goes up finds
just the restarts that there are within it.  If none does, such a counter fails. -/
structure Measures (c : Counter) (pair : Pair) : Prop where
  elapsed_pos : 0 < pair.elapsed
  within (hkind : c.kind = .monotonic) (hfits : pair.elapsed ≤ Word.greatest) :
    ∃ time : Word, time.toInt = pair.elapsed ∧
      c.delta pair.previous pair.current = .ok
        (if c.isRestart (step c.max pair.previous.reading pair.current.reading) time.toInt then 0
          else step c.max pair.previous.reading pair.current.reading)
  beyond (hkind : c.kind = .monotonic) (hfar : Word.greatest < pair.elapsed) :
    (∀ time : Word, time.toInt ≠ pair.elapsed) ∧
      c.delta pair.previous pair.current = .error .overflow

theorem measures_of_ordered (h : pair.Ordered) : Measures c pair where
  elapsed_pos := Int.sub_pos.mpr (Int64.lt_iff_toInt_lt.mp h)
  within hkind hfits := by
    have hclocks := (clocks_iff_of_lt (c := c) h).mpr fun _ => hfits
    have hlow : Word.least ≤ pair.elapsed := by
      have hpos := Int64.lt_iff_toInt_lt.mp h
      rw [Pair.elapsed, Sample.since, Word.least]
      omega
    have htime : (Int64.ofInt pair.elapsed).toInt = pair.elapsed := Word.toInt_ofInt ⟨hlow, hfits⟩
    refine ⟨Int64.ofInt pair.elapsed, htime, ?_⟩
    rw [delta_of_clocks hclocks, amount, hkind, htime, Pair.elapsed]
  beyond hkind hfar := by
    refine ⟨fun time htime => ?_, ?_⟩
    · rw [← htime] at hfar
      exact Int.not_lt.mpr (Word.toInt_le_greatest time) hfar
    · refine delta_of_not_clocks (eq_false_of_ne_true fun hclocks => ?_)
      exact Int.not_le.mpr hfar ((clocks_iff_of_lt h).mp hclocks hkind)

theorem ordered_of_checkOrder {cursor : String}
    (h : checkOrder pair.previous pair.current cursor = .ok ()) : pair.Ordered := by
  rw [checkOrder] at h
  split at h
  · cases h
  · rename_i hlt
    exact Int64.not_le.mp hlt

/-- Samples that pass the check of their order are measured so.  After any calls to a fresh cursor
of any shape, every value is counted between two such samples, and runs hold only such samples. -/
theorem measures_compared (c : Counter) :
    (∀ (pair : Pair) (cursor : String),
      checkOrder pair.previous pair.current cursor = .ok () → Measures c pair) ∧
    (∀ (feed : Feed) (cursor : AnyCursor), Stack feed (some c) cursor →
      ∀ (calls : List Call) (amount : Float) (reached : cursor.shape.State),
        ValueStream.nextValue ((Record.start cursor.cursor).callAll calls).cursor
          = .ok amount reached →
        ∃ pair, IsNext feed.samples.toList pair ∧ Measures c pair ∧
          c.delta pair.previous pair.current = .ok amount) ∧
    ∀ (feed : Feed) (calls : List Call) (pair : Pair),
      ((Record.start (Runs.make feed (some c))).callAll calls).cursor.phase.held? = some pair →
        IsNext feed.samples.toList pair ∧ Measures c pair := by
  refine ⟨fun pair cursor h => measures_of_ordered (ordered_of_checkOrder h), ?_, ?_⟩
  · intro feed cursor hstack calls amount reached hnext
    have hcompares := cursor.shape.steady_compares.callAll calls
      (r := Record.start cursor.cursor) hstack.compares
    obtain ⟨pair, hpair, hdelta⟩ := cursor.shape.returns_nextValue.of_ok hcompares hnext
    exact ⟨pair, hpair, measures_of_ordered hpair.ordered, hdelta⟩
  · intro feed calls pair hheld
    have hcompares : Runs.Compares c feed.samples.toList
        ((Record.start (Runs.make feed (some c))).callAll calls).cursor :=
      Runs.steady_compares.callAll calls (r := Record.start (Runs.make feed (some c)))
        ⟨rfl, rfl, Phase.unread_elim⟩
    rcases hphase : ((Record.start (Runs.make feed (some c))).callAll calls).cursor.phase with
      _ | held | _
    · rw [hphase] at hheld
      cases hheld
    · have hpair := (hcompares.held held hphase).1
      rw [hphase] at hheld
      obtain rfl := Option.some.inj hheld
      exact ⟨hpair, measures_of_ordered hpair.ordered⟩
    · rw [hphase] at hheld
      cases hheld

/-- A counter up to a hundred, over samples the second of which comes too early. -/
theorem measures_compared_of_four :
    Measures ⟨.monotonic, 100, 50⟩ ⟨⟨0, .whole 90⟩, ⟨1000, .whole 20⟩⟩ ∧
    (∃ pair, IsNext [⟨0, .whole 90⟩, ⟨-5, .whole 99⟩, ⟨1000, .whole 20⟩, ⟨2000, .whole 60⟩] pair ∧
      Measures ⟨.monotonic, 100, 50⟩ pair ∧
        Counter.delta ⟨.monotonic, 100, 50⟩ pair.previous pair.current = .ok 30) ∧
    ∃ pair, IsNext [⟨0, .whole 90⟩, ⟨1000, .whole 20⟩] pair ∧
      Measures ⟨.monotonic, 100, 50⟩ pair := by
  obtain ⟨hchecked, hcursors, hruns⟩ := measures_compared ⟨.monotonic, 100, 50⟩
  have hcounted : ∃ pair, IsNext [⟨0, .whole 90⟩, ⟨-5, .whole 99⟩, ⟨1000, .whole 20⟩,
      ⟨2000, .whole 60⟩] pair ∧ Measures ⟨.monotonic, 100, 50⟩ pair ∧
        Counter.delta ⟨.monotonic, 100, 50⟩ pair.previous pair.current = .ok 30 := by
    -- the first request is refused, and the second one counts
    have hnext : EStateM.run' ValueStream.nextValue ((Record.start (Grid.fresh [⟨0, .whole 90⟩,
        ⟨-5, .whole 99⟩, ⟨1000, .whole 20⟩, ⟨2000, .whole 60⟩] 0 (some ⟨.monotonic, 100, 50⟩)
        (by decide : (0 : Word) < 1000))).callAll [.nextValue]).cursor = some 30 := by
      decide +kernel
    obtain ⟨reached, hrun⟩ := of_run' hnext
    exact hcursors _ (.grid _) (.grid (Grid.make_of_pos (by decide))) [.nextValue] 30 reached hrun
  have hheld : ((Record.start (Runs.make (.ofSamples [⟨0, .whole 90⟩, ⟨1000, .whole 20⟩])
      (some ⟨.monotonic, 100, 50⟩))).callAll [.hasValue]).cursor.phase.held?.isSome := by
    decide +kernel
  rw [Option.isSome_iff_exists] at hheld
  obtain ⟨held, hheld⟩ := hheld
  exact ⟨hchecked ⟨⟨0, .whole 90⟩, ⟨1000, .whole 20⟩⟩ "" rfl, hcounted, held,
    hruns _ [.hasValue] held hheld⟩

/-- Two samples that are in order and further apart than any word.  Counting between them fails, with
a limit of one in a second and with none. -/
theorem elapsed_overflows_of_two :
    (¬ ∀ (pair : Pair) (cursor : String),
      checkOrder pair.previous pair.current cursor = .ok () →
        ∃ time : Word, time.toInt = pair.elapsed) ∧
    RateOptions.parse "counter,,1" = .ok ⟨true, .monotonic, 9223372036854775807, 1⟩ ∧
    RateOptions.parse "counter" = .ok ⟨true, .monotonic, 9223372036854775807, 0⟩ ∧
    ∀ limit ∈ [(1 : Word), 0], ∃ r : Resampler Grid,
      AnyResampler.build (.ofSamples [⟨-4611686018427387904, .whole 0⟩,
          ⟨4611686018427387904, .whole 9223372036854775807⟩]) (.fixed 1000) .sum .utc
          ⟨true, .monotonic, 9223372036854775807, limit⟩ = .ok ⟨.grid, r⟩ ∧
        r.drainAll.1.points.isEmpty ∧ r.drainAll.1.fault = some .overflow := by
  have hfar : ¬ ∃ time : Word, time.toInt
      = Pair.elapsed ⟨⟨-4611686018427387904, .whole 0⟩,
          ⟨4611686018427387904, .whole 9223372036854775807⟩⟩ := by
    rintro ⟨time, htime⟩
    have hle := Word.toInt_le_greatest time
    rw [htime] at hle
    exact absurd hle (by decide)
  refine ⟨fun hall => hfar ?_, by decide +kernel, by decide +kernel, fun limit hlimit => ?_⟩
  · exact hall ⟨⟨-4611686018427387904, .whole 0⟩,
      ⟨4611686018427387904, .whole 9223372036854775807⟩⟩ "" rfl
  · refine ⟨_, rfl, ?_⟩
    rcases List.mem_cons.mp hlimit with rfl | hlimit
    · decide +kernel
    · obtain rfl := List.mem_singleton.mp hlimit
      decide +kernel

end Counter

end TimeBuckets
