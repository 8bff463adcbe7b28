/-
Local dates and the instants at which dates start.

* `Zone.earliest?_spec` — clocks show a local time at the instant that is found for it;
* `Zone.localDate?_of_localMidnight?` — the instant at which a date starts has that date;
* `Zone.Divides` — a date starts at one instant, and the instants from there on are those with that
  date or a later one;
* `Zone.utc_localMidnight?`, `Zone.utc_divides` — in UTC all dates start with their first second,
  and divide the instants.

Not every date of every zone divides the instants: where clocks are put back over midnight, the
day before comes back for a while after the date has started.
-/
import TimeBuckets.Proofs.Units
import TimeBuckets.Zone.Names

namespace TimeBuckets

namespace Zone

variable {z : Zone} {d : Date} {m t : Word}

/-! ### Clocks -/

theorem inOrder_cons {c : ClockChange} {rest : List ClockChange} :
    ClockChange.inOrder (c :: rest) = true ↔
      (∀ d ∈ rest.head?, c.second ≤ d.second) ∧ ClockChange.inOrder rest = true := by
  rcases rest with _ | ⟨d, rest⟩
  · simp [ClockChange.inOrder]
  · simp [ClockChange.inOrder]

/-- Whether an instant is not before the start of a search, if it has one. -/
def hasBegun (start : Option Int) (i : Int) : Bool :=
  match start with
  | some s => decide (s ≤ i)
  | none => true

theorem hasBegun_iff {start : Option Int} {i : Int} :
    hasBegun start i = true ↔ ∀ s ∈ start, s ≤ i := by
  rcases start with _ | s
  · simp [hasBegun]
  · simp [hasBegun]

theorem earliestAfter_nil (start : Option Int) (kind : LocalKind) (l : Int) :
    earliestAfter start kind [] l =
      if hasBegun start (l - kind.offset) then some (l - kind.offset) else none := by
  unfold earliestAfter
  rfl

theorem earliestAfter_cons (start : Option Int) (kind : LocalKind) (c : ClockChange)
    (rest : List ClockChange) (l : Int) :
    earliestAfter start kind (c :: rest) l =
      if hasBegun start (l - kind.offset) && decide (l - kind.offset < c.second) then
        some (l - kind.offset)
      else earliestAfter (some c.second) c.kind rest l := by
  rw [earliestAfter.eq_def]
  rfl

/-- An instant that the search gives shows the local time that was asked for, and is not before the
change from which the search started. -/
theorem earliestAfter_spec {l i : Int} {changes : List ClockChange} :
    ∀ {start : Option Int} {kind : LocalKind},
      ClockChange.inOrder changes = true →
      (∀ s ∈ start, ∀ c ∈ changes.head?, s ≤ c.second) →
      earliestAfter start kind changes l = some i →
      (∀ s ∈ start, s ≤ i) ∧ i + (kindAfter kind changes i).offset = l := by
  induction changes with
  | nil =>
    intro start kind _ _ h
    rw [earliestAfter_nil] at h
    split at h
    · rename_i hbegun
      obtain rfl := Option.some.inj h
      refine ⟨hasBegun_iff.mp hbegun, ?_⟩
      rw [kindAfter]
      omega
    · exact absurd h (by simp)
  | cons c rest ih =>
    intro start kind hsorted hstart h
    obtain ⟨hfirst, hrest⟩ := inOrder_cons.mp hsorted
    rw [earliestAfter_cons] at h
    split at h
    · rename_i hfound
      rw [Bool.and_eq_true, decide_eq_true_eq] at hfound
      obtain ⟨hbegun, hbefore⟩ := hfound
      obtain rfl := Option.some.inj h
      refine ⟨hasBegun_iff.mp hbegun, ?_⟩
      rw [kindAfter, if_pos hbefore]
      omega
    -- the search goes on from the change, which is the start of the next kind
    · have hlater : ∀ s ∈ some c.second, ∀ c' ∈ rest.head?, s ≤ c'.second := by
        intro s hs
        rw [Option.mem_some_iff] at hs
        rw [← hs]
        exact hfirst
      obtain ⟨hreached, hshows⟩ := ih hrest hlater h
      have hc := hreached c.second rfl
      refine ⟨fun s hs => Int.le_trans (hstart s hs c rfl) hc, ?_⟩
      rwa [kindAfter, if_neg (by omega)]

/-- Clocks show a local time at the first instant that is found for it. -/
theorem earliest?_spec {l i : Int} (h : z.earliest? l = some i) :
    i + (z.kindAt i).offset = l :=
  (earliestAfter_spec z.inOrder (fun s hs => absurd hs (by simp)) h).2

/-! ### Dates of instants -/

/-- The instant at which a date starts has that date. -/
theorem localDate?_of_localMidnight? (h : z.localMidnight? d = some m) :
    z.localDate? m = some d := by
  obtain ⟨hour, hhour, hinstant⟩ := List.exists_of_findSome?_eq_some h
  have hrange : 0 ≤ hour ∧ hour ≤ 3 := by
    have hall : ∀ hour ∈ [(0 : Int), 1, 2, 3], 0 ≤ hour ∧ hour ≤ 3 := by decide
    exact hall hour hhour
  rw [instantOf?] at hinstant
  rcases hfound : z.earliest? (86400 * d.toDays + 3600 * hour) with _ | s
  · rw [hfound] at hinstant
    exact absurd hinstant (by simp)
  · rw [hfound] at hinstant
    have hshows := earliest?_spec hfound
    -- the local time is an hour of the date, so dividing by the length of a day gives the date
    simp only at hinstant
    split at hinstant
    · rename_i hdated
      rw [Word.ofInt?_eq_some_iff] at hinstant
      have hsecond : m.toInt / 1000 = s := by omega
      have hday : (s + (z.kindAt s).offset) / 86400 = d.toDays := by omega
      rw [localDate?]
      simp only [hsecond, hdated, hday, if_true]
      exact d.ofDays?_toDays
    · exact absurd hinstant (by simp)

/-- A time with a local date is far from the ends of words. -/
theorem toInt_bounds (h : z.localDate? t = some d) :
    -10000000000000000 < t.toInt ∧ t.toInt < 10000000000000000 := by
  rw [localDate?] at h
  split at h
  · rename_i hdated
    rw [isDated, Option.isSome_iff_exists] at hdated
    obtain ⟨e, he⟩ := hdated
    have hdays := Date.toDays_of_ofDays? he
    have hbounds := e.toDays_bounds
    omega
  · exact absurd h (by simp)

/-! ### Dates that divide the instants -/

/-- The date starts at one instant, and the dates of the instants from there on, and of no others,
are that date or a later one. -/
def Divides (z : Zone) (d : Date) : Prop :=
  ∃ m, z.localMidnight? d = some m ∧
    ∀ t e, z.localDate? t = some e → (d.toDays ≤ e.toDays ↔ m ≤ t)

/-- Every date starts with its first second in UTC. -/
theorem utc_localMidnight? (d : Date) :
    ∃ m, utc.localMidnight? d = some m ∧ m.toInt = 86400000 * d.toDays := by
  have hbounds := d.toDays_bounds
  have hdated : isDated (86400 * d.toDays) = true := by
    rw [isDated, show 86400 * d.toDays / 86400 = d.toDays by omega, d.ofDays?_toDays]
    rfl
  have hword := Word.toInt_ofInt (n := 1000 * (86400 * d.toDays))
    (by simp only [Word.least, Word.greatest]; omega)
  have hfound : utc.earliest? (86400 * d.toDays + 3600 * 0) = some (86400 * d.toDays) := by
    show some (86400 * d.toDays + 3600 * 0 - 0) = _
    rw [show 86400 * d.toDays + 3600 * 0 - 0 = 86400 * d.toDays by omega]
  have hinstant : utc.instantOf? d 0 = some (Int64.ofInt (1000 * (86400 * d.toDays))) := by
    rw [instantOf?, hfound]
    simp only [hdated, if_true]
    exact Word.ofInt?_eq_some_iff.mpr hword
  refine ⟨Int64.ofInt (1000 * (86400 * d.toDays)), ?_, by rw [hword]; omega⟩
  rw [localMidnight?, List.findSome?_cons, hinstant]

/-- Every date divides the instants in UTC. -/
theorem utc_divides (d : Date) : utc.Divides d := by
  obtain ⟨m, hmidnight, hm⟩ := utc_localMidnight? d
  refine ⟨m, hmidnight, fun t e he => ?_⟩
  rw [localDate?] at he
  split at he
  · have hdays := Date.toDays_of_ofDays? he
    have hzero : (utc.kindAt (t.toInt / 1000)).offset = 0 := rfl
    rw [hzero] at hdays
    rw [Int64.le_iff_toInt_le, hm]
    omega
  · exact absurd he (by simp)

end Zone

end TimeBuckets
