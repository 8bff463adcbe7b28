/-
How cursors go on, in whatever order the samples come and whatever reads fail.

* `readBucket` — the point of the open bucket, before the next bucket is opened;
* `Course` — the states of a cursor before and after it has begun to read, what each operation does
  to them, and how much can still come;
* `Course.readBucket_cases` — reading a bucket leaves the cursor at the end of the bucket with less
  to come, or fails with less to come, or is blocked;
* `Grid.course`, `Runs.course` — the courses of grids and of runs.

A cursor at the end of its bucket that fails to open the next one stays at the end of its bucket,
because the sample or the pair that it holds is still the one that ended the bucket.  Only a cursor
over runs may also come upon a pair whose amount it cannot tell, and then it goes no further.
-/
import TimeBuckets.Proofs.Likeness
import TimeBuckets.Proofs.Readings

namespace TimeBuckets

/-! ### Reading a bucket to its end -/

section Buckets

variable {σ : Type} [BucketCursor σ] {c c' : σ} {s : Statistic} {point : Point} {fault : Fault}

/-- The point of the open bucket, before the next bucket is opened. -/
def readBucket (s : Statistic) : EStateM Fault σ Point := do
  let value ← summarize s
  let time ← readBucketTime
  return ⟨time, value⟩

theorem takeBucket_of_ok (h : readBucket s c = .ok point c') :
    takeBucket s c = match BucketCursor.openNext c' with
      | .ok _ c'' => .ok point c''
      | .error fault c'' => .error fault c'' := by
  obtain ⟨value, c₁, hvalue, hrest⟩ := of_bind_ok h
  obtain ⟨time, c₂, htime, hpoint⟩ := of_bind_ok hrest
  obtain ⟨rfl, rfl⟩ := EStateM.Result.ok.inj hpoint
  rw [takeBucket, bind_of_ok hvalue, bind_of_ok htime]
  rcases hopen : BucketCursor.openNext c₂ with ⟨_, c₃⟩ | ⟨fault, c₃⟩
  · exact bind_of_ok hopen
  · exact bind_of_error hopen

theorem takeBucket_of_error (h : readBucket s c = .error fault c') :
    takeBucket s c = .error fault c' := by
  rcases hvalue : summarize s c with ⟨value, c₁⟩ | ⟨cause, c₁⟩
  · rw [readBucket, bind_of_ok hvalue] at h
    rw [takeBucket, bind_of_ok hvalue]
    rcases htime : readBucketTime c₁ with ⟨time, c₂⟩ | ⟨cause, c₂⟩
    · rw [bind_of_ok htime] at h
      cases h
    · rw [bind_of_error htime] at h
      exact (bind_of_error htime).trans h
  · rw [readBucket, bind_of_error hvalue] at h
    exact (bind_of_error hvalue).trans h

theorem readBucketTime_state (c : σ) : after readBucketTime c = c :=
  keeps_readBucketTime (P := (· = c)) c rfl

end Buckets

/-! ### Courses -/

/-- Asked for a value, the cursor fails and stays as it is. -/
def Halted {σ : Type} [ValueStream σ] (fault : Fault) (c : σ) : Prop :=
  ValueStream.hasValue c = .error fault c

/-- How a cursor goes on.  Before it has begun to read it is `Fresh`, and then `Begun`: asking such
a cursor for a value changes nothing, even if it fails, and every operation leaves less to come or
at least not more.  A first reading that fails may leave the cursor fresh, which is then `Barred` by
the fault, and taking a value may fail without using anything up, in which case the cursor is
`Blocked` by the fault and still says that it has a value. -/
structure Course {σ : Type} [BucketCursor σ] (Fresh Begun : σ → Prop)
    (Barred Blocked : Fault → σ → Prop) : Prop where
  hasValue {c : σ} : Begun c →
    (∃ more, ValueStream.hasValue c = .ok more c) ∨ ∃ fault, Halted fault c
  start {c : σ} : Fresh c → match ValueStream.hasValue c with
    | .ok more c' => Begun c' ∧ ValueStream.hasValue c' = .ok more c' ∧
        ValueStream.pending c' ≤ ValueStream.pending c
    | .error fault c' => Begun c' ∧ ValueStream.pending c' ≤ ValueStream.pending c ∨
        Fresh c' ∧ Barred fault c'
  nextValue {c : σ} : Begun c → ValueStream.hasValue c = .ok true c →
    match ValueStream.nextValue c with
    | .ok _ c' => Begun c' ∧ ValueStream.pending c' < ValueStream.pending c
    | .error fault c' => Begun c' ∧ (ValueStream.pending c' < ValueStream.pending c ∨
        Blocked fault c' ∧ ValueStream.hasValue c' = .ok true c')
  openNext {c : σ} : Begun c → Ended c → match BucketCursor.openNext c with
    | .ok _ c' => Begun c' ∧ ValueStream.pending c' ≤ ValueStream.pending c
    | .error fault c' => Begun c' ∧ (Ended c' ∨ Halted fault c')
  seek (time : Word) : Keeps (fun c => Fresh c ∨ Begun c) (BucketCursor.seek (σ := σ) time)

namespace Course

variable {σ : Type} [BucketCursor σ] {Fresh Begun : σ → Prop} {Barred Blocked : Fault → σ → Prop}

/-- Asked for a value, a cursor answers and has begun to read, or fails and goes on. -/
theorem ask (h : Course Fresh Begun Barred Blocked) {c : σ} (hc : Fresh c ∨ Begun c) :
    (∃ more c', ValueStream.hasValue c = .ok more c' ∧ Begun c' ∧
      ValueStream.hasValue c' = .ok more c') ∨
    ∃ fault c', ValueStream.hasValue c = .error fault c' ∧ (Fresh c' ∨ Begun c') := by
  rcases hc with hfresh | hbegun
  · have hstart := h.start hfresh
    rcases hrun : ValueStream.hasValue c with ⟨more, c'⟩ | ⟨fault, c'⟩
    · rw [hrun] at hstart
      exact Or.inl ⟨more, c', rfl, hstart.1, hstart.2.1⟩
    · rw [hrun] at hstart
      exact Or.inr ⟨fault, c', rfl, hstart.symm.imp And.left And.left⟩
  · rcases h.hasValue hbegun with ⟨more, hrun⟩ | ⟨fault, hrun⟩
    · exact Or.inl ⟨more, c, hrun, hbegun, hrun⟩
    · exact Or.inr ⟨fault, c, hrun, Or.inr hbegun⟩

/-- Whoever was asked has begun to read, and gives the same answer again. -/
theorem asked (h : Course Fresh Begun Barred Blocked) {c c' : σ} {more : Bool}
    (hc : Fresh c ∨ Begun c) (hask : ValueStream.hasValue c = .ok more c') :
    Begun c' ∧ ValueStream.hasValue c' = .ok more c' := by
  rcases h.ask hc with ⟨more', c'', hrun, hbegun, hagain⟩ | ⟨fault, c'', hrun, -⟩
  · obtain ⟨rfl, rfl⟩ := EStateM.Result.ok.inj (hrun.symm.trans hask)
    exact ⟨hbegun, hagain⟩
  · exact absurd (hrun.symm.trans hask) nofun

/-- The values of a bucket are taken up to its end, or a value cannot be had. -/
theorem takeValues_cases (h : Course Fresh Begun Barred Blocked) :
    ∀ {n : Nat} {c : σ}, Begun c → ValueStream.pending c < n → match takeValues n c with
      | .ok values c' => Begun c' ∧ Ended c' ∧ (values = [] ∧ c' = c ∨
          values ≠ [] ∧ ValueStream.pending c' < ValueStream.pending c)
      | .error fault c' => Begun c' ∧ (ValueStream.pending c' < ValueStream.pending c ∨
          Blocked fault c' ∧ ValueStream.hasValue c' = .ok true c' ∨ Halted fault c ∧ c' = c) := by
  intro n
  induction n with
  | zero => exact fun _ hn => absurd hn (Nat.not_lt_zero _)
  | succ n ih =>
    intro c hc hn
    rcases h.hasValue hc with ⟨more, hmore⟩ | ⟨fault, hhalted⟩
    case inr =>
      have htake : takeValues (n + 1) c = .error fault c := bind_of_error hhalted
      rw [htake]
      exact ⟨hc, Or.inr (Or.inr ⟨hhalted, rfl⟩)⟩
    rw [takeValues, bind_of_ok hmore]
    cases more with
    | false => exact ⟨hc, hmore, Or.inl ⟨rfl, rfl⟩⟩
    | true =>
      have hnext := h.nextValue hc hmore
      rw [if_pos rfl]
      rcases hvalue : ValueStream.nextValue c with ⟨value, c₁⟩ | ⟨fault, c₁⟩
      · rw [hvalue] at hnext
        have hrest := ih hnext.1 (by omega)
        rw [bind_of_ok hvalue]
        rcases htake : takeValues n c₁ with ⟨rest, c'⟩ | ⟨fault, c'⟩
        · rw [htake] at hrest
          rw [bind_of_ok htake]
          obtain ⟨hbegun, hended, ⟨-, rfl⟩ | ⟨-, hlt⟩⟩ := hrest
          · exact ⟨hbegun, hended, Or.inr ⟨List.cons_ne_nil _ _, hnext.2⟩⟩
          · exact ⟨hbegun, hended, Or.inr ⟨List.cons_ne_nil _ _, by omega⟩⟩
        · rw [htake] at hrest
          rw [bind_of_error htake]
          obtain ⟨hbegun, hlt | hblocked | ⟨-, rfl⟩⟩ := hrest
          · exact ⟨hbegun, Or.inl (by omega)⟩
          · exact ⟨hbegun, Or.inr (Or.inl hblocked)⟩
          · exact ⟨hbegun, Or.inl hnext.2⟩
      · rw [hvalue] at hnext
        rw [bind_of_error hvalue]
        exact ⟨hnext.1, hnext.2.imp_right Or.inl⟩

/-- Reading a bucket that has a value leaves the cursor at its end, or fails. -/
theorem readBucket_cases (h : Course Fresh Begun Barred Blocked) {c : σ} (hc : Begun c)
    (hmore : ValueStream.hasValue c = .ok true c) (s : Statistic) :
    match readBucket s c with
    | .ok _ c' => Begun c' ∧ Ended c' ∧ ValueStream.pending c' < ValueStream.pending c
    | .error fault c' => Begun c' ∧ (ValueStream.pending c' < ValueStream.pending c ∨
        Blocked fault c' ∧ ValueStream.hasValue c' = .ok true c') := by
  have hvalues := h.takeValues_cases (n := ValueStream.pending c + 1) hc (Nat.lt_succ_self _)
  rcases htake : takeValues (ValueStream.pending c + 1) c with ⟨values, c₁⟩ | ⟨fault, c₁⟩
  · rw [htake] at hvalues
    have hbucket : bucketValues c = .ok values c₁ := htake
    obtain ⟨hbegun, hended, ⟨-, rfl⟩ | ⟨hne, hlt⟩⟩ := hvalues
    · exact absurd (hmore.symm.trans hended) (by simp)
    · obtain ⟨v, rest, rfl⟩ := List.exists_cons_of_ne_nil hne
      have hsum : summarize s c = .ok (s.ofNonempty v rest) c₁ := bind_of_ok hbucket
      have hstate := readBucketTime_state c₁
      rw [readBucket, bind_of_ok hsum]
      rcases htime : readBucketTime c₁ with ⟨time, c₂⟩ | ⟨fault, c₂⟩
      · obtain rfl : c₂ = c₁ := (after_of_ok htime).symm.trans hstate
        rw [bind_of_ok htime]
        exact ⟨hbegun, hended, hlt⟩
      · obtain rfl : c₂ = c₁ := (after_of_error htime).symm.trans hstate
        rw [bind_of_error htime]
        exact ⟨hbegun, Or.inl hlt⟩
  · rw [htake] at hvalues
    have hsum : summarize s c = .error fault c₁ :=
      bind_of_error (show bucketValues c = .error fault c₁ from htake)
    rw [readBucket, bind_of_error hsum]
    obtain ⟨hbegun, hlt | hblocked | ⟨hhalted, -⟩⟩ := hvalues
    · exact ⟨hbegun, Or.inl hlt⟩
    · exact ⟨hbegun, Or.inr hblocked⟩
    · exact absurd (hmore.symm.trans hhalted) nofun

end Course

/-! ### Grids -/

namespace Feed

variable {f : Feed}

theorem lastFailed_missed {fault : SourceFault} (h : f.nextFault? = some fault) :
    f.missed.LastFailed (.source fault) := ⟨fault, h, rfl⟩

/-- A read takes the next sample, or fails because it is set to fail or because none is left. -/
theorem next_cases (f : Feed) :
    (∃ s rest, f.remaining = s :: rest ∧ f.next = .ok s f.advanced) ∨
    ∃ fault, f.next = .error fault f.missed ∧
      (f.missed.LastFailed (.source fault) ∨ f.remaining = [] ∧ fault = .exhausted) := by
  rcases hfault : f.nextFault? with _ | fault
  · rcases hrem : f.remaining with _ | ⟨s, rest⟩
    · refine Or.inr ⟨.exhausted, ?_, Or.inr ⟨rfl, rfl⟩⟩
      have hget : f.samples[f.position]? = none := by
        have hhead := congrArg List.head? hrem
        rwa [remaining, List.head?_drop, List.head?_nil, Array.getElem?_toList] at hhead
      rw [next, hfault, hget, missed]
    · exact Or.inl ⟨s, rest, rfl, next_of_no_fault hfault hrem⟩
  · exact Or.inr ⟨fault, next_of_fault hfault, Or.inl (lastFailed_missed hfault)⟩

theorem left_advanced {s : Sample} {rest : List Sample} (h : f.remaining = s :: rest) :
    f.advanced.left + 1 = f.left := by
  rw [left_eq, left_eq, remaining_advanced, h, List.tail_cons, List.length_cons]

end Feed

namespace Grid

variable {g g' : Grid} {s : Sample} {fault : Fault}

theorem pending_of_ready (h : g.phase = .ready s) : pending g = g.feed.left + 1 := by
  rw [pending, h]

theorem pending_le (g : Grid) : pending g ≤ g.feed.left + 1 := by
  rw [pending]
  rcases g.phase with _ | s | _
  · exact Nat.le_succ _
  · exact Nat.le_refl _
  · exact Nat.zero_le _

/-- Reading ahead takes what it holds from what is left. -/
theorem pending_started_le (g : Grid) : pending g.started ≤ g.feed.left := by
  rw [pending]
  rcases g.started_cases with ⟨hphase, -⟩ | ⟨s, rest, hrem, hphase, hrest, -⟩
  · rw [hphase]
    exact Nat.zero_le _
  · rw [hphase, Feed.left_eq, Feed.left_eq, hrest, hrem]
    exact Nat.le_refl _

/-- A counter holds a sample of the open bucket that none follows, and cannot be had a value of. -/
structure Lone (fault : Fault) (g : Grid) : Prop where
  counts : g.counter.isSome = true
  held : ∃ s, g.phase = .ready s ∧ s.time < g.boundary
  last : g.feed.remaining = []
  fault_eq : fault = .source .exhausted

/-- The last read failed, or the held sample has no value. -/
def Blocked (fault : Fault) (g : Grid) : Prop := g.feed.LastFailed fault ∨ g.Lone fault

/-- A grid that has a value holds a sample before the boundary. -/
theorem held_of_hasValue (hbegun : g.phase ≠ .unread) (hmore : hasValue g = .ok true g) :
    ∃ s, g.phase = .ready s ∧ s.time < g.boundary := by
  rw [hasValue_of_begun hbegun] at hmore
  have hhead := (EStateM.Result.ok.inj hmore).1
  rcases stock_of_begun hbegun with ⟨hstock, -⟩ | ⟨s, hstock, hphase⟩
  · rw [hstock] at hhead
    cases hhead
  · rw [hstock, List.head?_cons, Option.any_some] at hhead
    exact ⟨s, hphase, of_decide_eq_true hhead⟩

theorem hasValue_of_held (hphase : g.phase = .ready s) (hlt : s.time < g.boundary) :
    hasValue g = .ok true g := by
  rw [hasValue_of_begun (hphase ▸ Phase.ready_ne_unread s), stock, hphase, List.head?_cons,
    Option.any_some]
  exact congrArg (EStateM.Result.ok · g) (decide_eq_true hlt)

/-- Taking a value of a counter reads the next sample, unless this fails or none is left, and then
fails if the two are not in order, or are too far apart. -/
theorem count_cases (c : Counter) (hcounter : g.counter.isSome = true) (hphase : g.phase = .ready s)
    (hlt : s.time < g.boundary) :
    match count c s g with
    | .ok _ g' => g'.phase ≠ .unread ∧ g'.boundary = g.boundary ∧ pending g' < pending g
    | .error fault g' => g'.phase ≠ .unread ∧ g'.boundary = g.boundary ∧
        (pending g' < pending g ∨ Blocked fault g' ∧ g'.phase = g.phase) := by
  have hheld : g.phase ≠ .unread := hphase ▸ Phase.ready_ne_unread s
  rw [pending_of_ready hphase]
  rcases g.feed.next_cases with ⟨next, rest, hrem, hnext⟩ | ⟨fault, hnext, hcause⟩
  · have hread : read g = .ok next { g with feed := g.feed.advanced } := by rw [read, hnext]
    have hleft := Feed.left_advanced hrem
    have hbegun : (holding { g with feed := g.feed.advanced } next).phase ≠ .unread :=
      holding_ne_unread _ _
    have hless : pending (holding { g with feed := g.feed.advanced } next) < g.feed.left + 1 :=
      Nat.lt_of_le_of_lt (pending_le _) (show g.feed.advanced.left + 1 < g.feed.left + 1 by omega)
    rcases horder : checkOrder s next (text { g with feed := g.feed.advanced }) with fault | _
    · rw [count_of_disordered hread horder]
      refine ⟨hheld, rfl, Or.inl ?_⟩
      show pending { g with feed := g.feed.advanced } < g.feed.left + 1
      rw [pending_of_ready (g := { g with feed := g.feed.advanced }) hphase]
      exact Nat.succ_lt_succ (show g.feed.advanced.left < g.feed.left by omega)
    · rw [count_of_ordered hread horder]
      rcases c.delta s next with fault | amount
      · exact ⟨hbegun, rfl, Or.inl hless⟩
      · exact ⟨hbegun, rfl, hless⟩
  · have hread : read g = .error (.source fault) { g with feed := g.feed.missed } := by
      rw [read, hnext]
    rw [count_of_failed hread]
    refine ⟨hheld, rfl, Or.inr ⟨hcause.imp id fun h => ?_, rfl⟩⟩
    exact ⟨hcounter, ⟨s, hphase, hlt⟩, h.1, congrArg Fault.source h.2⟩

/-- Taking a value leaves the boundary as it is, and a failure that uses nothing up leaves what is
held. -/
theorem nextValue_cases (hbegun : g.phase ≠ .unread) (hmore : hasValue g = .ok true g) :
    match nextValue g with
    | .ok _ g' => g'.phase ≠ .unread ∧ g'.boundary = g.boundary ∧ pending g' < pending g
    | .error fault g' => g'.phase ≠ .unread ∧ g'.boundary = g.boundary ∧
        (pending g' < pending g ∨ Blocked fault g' ∧ g'.phase = g.phase) := by
  obtain ⟨s, hphase, hlt⟩ := held_of_hasValue hbegun hmore
  rcases hcounter : g.counter with _ | c
  · rw [nextValue_of_plain hmore hphase hcounter]
    rcases pull_cases g with ⟨hpull, -⟩ | ⟨fault, hpull, hfault⟩
    · rw [bind_of_ok hpull]
      refine ⟨begun_of_started g, rfl, ?_⟩
      rw [pending_of_ready hphase]
      exact Nat.lt_succ_of_le (pending_started_le g)
    · rw [bind_of_error hpull]
      exact ⟨hbegun, rfl, Or.inr ⟨Or.inl (Feed.lastFailed_missed hfault), rfl⟩⟩
  · rw [nextValue_of_counter hmore hphase hcounter]
    exact count_cases c (by rw [hcounter]; rfl) hphase hlt

/-- Nothing but the boundary decides whether a begun grid is at the end of its bucket. -/
theorem course : Course (fun g : Grid => g.phase = .unread) (fun g => g.phase ≠ .unread)
    (fun fault g => g.feed.LastFailed fault) Blocked where
  hasValue hbegun := Or.inl ⟨_, hasValue_of_begun hbegun⟩
  start {g} hphase := by
    have hpending : pending g = g.feed.left := by rw [pending, hphase]
    have hle := pending_started_le g
    rw [← hpending] at hle
    rcases fill_cases hphase with ⟨hfill, -⟩ | ⟨fault, hfill, hfault⟩
    · rw [openBucket_eq (begun_of_started g)] at hfill
      rcases hend : g.started.endFor g.started.stock.head? with fault | last
      · rw [hend] at hfill
        have hrun : ValueStream.hasValue g = .error fault g.started := bind_of_error hfill
        rw [hrun]
        exact Or.inl ⟨begun_of_started g, hle⟩
      · rw [hend] at hfill
        have hbegun : ({ g.started with boundary := last } : Grid).phase ≠ .unread :=
          begun_of_started g
        have hagain := hasValue_of_begun hbegun
        have hrun : ValueStream.hasValue g = _ := (hasValue_of_fill hfill hbegun).trans hagain
        rw [hrun]
        exact ⟨hbegun, hagain, hle⟩
    · have hrun : ValueStream.hasValue g = .error (.source fault) _ := bind_of_error hfill
      rw [hrun]
      exact Or.inr ⟨hphase, Feed.lastFailed_missed hfault⟩
  nextValue {g} hbegun hmore := by
    have hcases := nextValue_cases hbegun hmore
    rcases hnext : nextValue g with ⟨value, g'⟩ | ⟨fault, g'⟩
    · rw [hnext] at hcases
      rw [show ValueStream.nextValue g = .ok value g' from hnext]
      exact ⟨hcases.1, hcases.2.2⟩
    · rw [hnext] at hcases
      obtain ⟨hbegun', hboundary, hcause⟩ := hcases
      obtain ⟨s, hphase, hlt⟩ := held_of_hasValue hbegun hmore
      rw [show ValueStream.nextValue g = .error fault g' from hnext]
      refine ⟨hbegun', hcause.imp_right fun hblocked => ⟨hblocked.1, ?_⟩⟩
      exact hasValue_of_held (hblocked.2.trans hphase) (hboundary ▸ hlt)
  openNext {g} hbegun hended := by
    have hopen : BucketCursor.openNext g = openBucket g := bind_of_ok (fill_of_begun hbegun)
    rw [hopen, openBucket_eq hbegun]
    rcases g.endFor g.stock.head? with fault | last
    · exact ⟨hbegun, Or.inl hended⟩
    · exact ⟨hbegun, Nat.le_refl _⟩
  seek time := fun _ _ => Classical.em _

end Grid

/-! ### Runs -/

namespace Runs

variable {r r' : Runs} {pair : Pair} {fault : Fault}

/-- The last read failed. -/
def Blocked (fault : Fault) (r : Runs) : Prop := r.feed.LastFailed fault

theorem pending_of_ready (h : r.phase = .ready pair) : pending r = r.feed.left + 1 := by
  rw [pending, h]

/-- A cursor that has begun answers, or halts at a pair whose amount cannot be told. -/
theorem hasValue_of_begun (hbegun : r.phase ≠ .unread) :
    (∃ more, hasValue r = .ok more r) ∨ ∃ fault, Halted fault r := by
  rcases hphase : r.phase with _ | pair | _
  · exact absurd hphase hbegun
  · rcases hclocked : pair.clocked r.counter with _ | _
    · exact Or.inr ⟨.overflow, hasValue_of_not_clocked hphase hclocked⟩
    · exact Or.inl ⟨_, hasValue_of_clocked hphase hclocked⟩
  · exact Or.inl ⟨false, ended_of_spent hphase⟩

/-- A pair that is known to be live, or not to be, can be told the amount of. -/
theorem clocked_of_hasValue {more : Bool} (hphase : r.phase = .ready pair)
    (hmore : hasValue r = .ok more r) :
    pair.clocked r.counter = true ∧ isLive r.counter pair = more := by
  rcases hclocked : pair.clocked r.counter with _ | _
  · cases (hasValue_of_not_clocked hphase hclocked).symm.trans hmore
  · exact ⟨rfl, (EStateM.Result.ok.inj ((hasValue_of_clocked hphase hclocked).symm.trans hmore)).1⟩

/-- Reading what follows a sample uses it up, even if the two are not in order. -/
theorem pairWith_cases (previous : Sample) (hnext : r.feed.hasNext = true) :
    match pairWith previous r with
    | .ok _ r' => (∃ pair, r'.phase = .ready pair) ∧ r'.feed.left + 1 = r.feed.left
    | .error fault r' => r'.phase = r.phase ∧ r'.counter = r.counter ∧
        (r'.feed.left + 1 = r.feed.left ∨ Blocked fault r' ∧ r'.feed.left = r.feed.left) := by
  rcases r.feed.next_cases with ⟨current, rest, hrem, hread⟩ | ⟨fault, hread, hcause⟩
  · have hrun : read r = .ok current { r with feed := r.feed.advanced } := by rw [read, hread]
    have hleft := Feed.left_advanced hrem
    rw [pairWith, bind_of_ok hrun, get_bind]
    rcases checkOrder previous current (text { r with feed := r.feed.advanced }) with fault | _
    · exact ⟨rfl, rfl, Or.inl hleft⟩
    · exact ⟨⟨_, rfl⟩, hleft⟩
  · have hrun : read r = .error (.source fault) { r with feed := r.feed.missed } := by
      rw [read, hread]
    rw [pairWith, bind_of_error hrun]
    refine ⟨rfl, rfl, Or.inr ⟨hcause.resolve_right fun h => ?_, rfl⟩⟩
    rw [Feed.hasNext_eq, h.1] at hnext
    exact absurd hnext (by decide)

/-- Moving on from a pair leaves less to come, or fails and holds the pair. -/
theorem advance_cases (hphase : r.phase = .ready pair) :
    match advance r with
    | .ok _ r' => r'.phase ≠ .unread ∧ pending r' < pending r
    | .error fault r' => r'.phase = r.phase ∧ r'.counter = r.counter ∧ pending r' ≤ pending r ∧
        (pending r' < pending r ∨ Blocked fault r') := by
  rw [pending_of_ready hphase]
  by_cases hnext : r.feed.hasNext = true
  · have hstep : advance r = pairWith pair.current r := by
      rw [advance, get_bind, hphase]
      simp only [hnext, if_true]
    have hcases := pairWith_cases pair.current hnext
    rw [hstep]
    rcases hrun : pairWith pair.current r with ⟨_, r'⟩ | ⟨fault, r'⟩
    · rw [hrun] at hcases
      obtain ⟨⟨pair', hphase'⟩, hleft⟩ := hcases
      refine ⟨hphase' ▸ Phase.ready_ne_unread pair', ?_⟩
      rw [pending_of_ready hphase']
      omega
    · rw [hrun] at hcases
      obtain ⟨hsame, hcounter, hleft⟩ := hcases
      refine ⟨hsame, hcounter, ?_⟩
      rw [pending_of_ready (hsame.trans hphase)]
      exact hleft.elim (fun hlt => ⟨by omega, Or.inl (by omega)⟩) fun h =>
        ⟨by omega, Or.inr h.1⟩
  · have hstep : advance r = .ok () { r with phase := .spent } := by
      rw [advance, get_bind, hphase]
      simp only [hnext]
      rfl
    rw [hstep]
    exact ⟨Phase.spent_ne_unread, Nat.succ_pos _⟩

/-- Moving on to a run holds something throughout, and fails only between runs, or where the cursor
halts. -/
theorem skip_cases (n : Nat) : ∀ {r : Runs}, r.phase ≠ .unread → match skip n r with
    | .ok _ r' => r'.phase ≠ .unread ∧ pending r' ≤ pending r
    | .error fault r' => r'.phase ≠ .unread ∧ pending r' ≤ pending r ∧
        (Ended r' ∨ Halted fault r') := by
  induction n with
  | zero => exact fun hbegun => ⟨hbegun, Nat.le_refl _⟩
  | succ n ih =>
    intro r hbegun
    rcases hphase : r.phase with _ | pair | _
    · exact absurd hphase hbegun
    · rcases hclocked : pair.clocked r.counter with _ | _
      · rw [skip_of_not_clocked hphase hclocked]
        exact ⟨hbegun, Nat.le_refl _, Or.inr (hasValue_of_not_clocked hphase hclocked)⟩
      rcases hlive : isLive r.counter pair with _ | _
      · have hadvance := advance_cases hphase
        rw [skip_of_idle hphase hclocked hlive]
        rcases hrun : advance r with ⟨_, r₁⟩ | ⟨fault, r₁⟩
        · rw [hrun] at hadvance
          have hrest := ih hadvance.1
          rw [bind_of_ok hrun]
          rcases hskip : skip n r₁ with ⟨_, r'⟩ | ⟨fault, r'⟩
          · rw [hskip] at hrest
            exact ⟨hrest.1, by omega⟩
          · rw [hskip] at hrest
            exact ⟨hrest.1, by omega, hrest.2.2⟩
        · rw [hrun] at hadvance
          obtain ⟨hsame, hcounter, hle, -⟩ := hadvance
          rw [bind_of_error hrun]
          -- the idle pair that was to be left is still held
          have hended : hasValue r₁ = .ok false r₁ := by
            rw [hasValue_of_clocked (hsame.trans hphase) (hcounter ▸ hclocked), hcounter, hlive]
          exact ⟨hsame ▸ hbegun, hle, Or.inl hended⟩
      · rw [skip_of_live hphase hclocked hlive]
        exact ⟨hbegun, Nat.le_refl _⟩
    · have hskip : skip (n + 1) r = .ok () r := by
        rw [skip, get_bind, hphase]
        rfl
      rw [hskip]
      exact ⟨hbegun, Nat.le_refl _⟩

theorem skipIdle_cases (hbegun : r.phase ≠ .unread) : match skipIdle r with
    | .ok _ r' => r'.phase ≠ .unread ∧ pending r' ≤ pending r
    | .error fault r' => r'.phase ≠ .unread ∧ pending r' ≤ pending r ∧
        (Ended r' ∨ Halted fault r') :=
  skip_cases (r.feed.left + 1) hbegun

theorem pending_of_spent (h : r.phase = .spent) : pending r = 0 := by
  rw [pending, h]

/-- Reading the first pair begins, even if it fails. -/
theorem readFirst_cases (r : Runs) : match readFirst r with
    | .ok _ r' => r'.phase ≠ .unread ∧ pending r' ≤ r.feed.left
    | .error _ r' => r'.phase ≠ .unread ∧ pending r' ≤ r.feed.left := by
  rw [readFirst, modify_bind, get_bind]
  by_cases hnext : r.feed.hasNext = true
  · rw [if_pos hnext]
    rcases r.feed.next_cases with ⟨first, rest, hrem, hread⟩ | ⟨fault, hread, -⟩
    · have hrun : read { r with phase := .spent }
          = .ok first { r with phase := .spent, feed := r.feed.advanced } := by rw [read, hread]
      have hleft := Feed.left_advanced hrem
      rw [bind_of_ok hrun, get_bind]
      by_cases hmore : r.feed.advanced.hasNext = true
      · rw [if_pos hmore]
        have hcases := pairWith_cases
          (r := { r with phase := .spent, feed := r.feed.advanced }) first hmore
        rcases hpair : pairWith first { r with phase := .spent, feed := r.feed.advanced } with
          ⟨_, r'⟩ | ⟨fault, r'⟩
        · rw [hpair] at hcases
          obtain ⟨⟨pair, hphase⟩, hpaired⟩ := hcases
          refine ⟨hphase ▸ Phase.ready_ne_unread pair, ?_⟩
          rw [pending_of_ready hphase, hpaired]
          exact Nat.le_of_succ_le (Nat.le_of_eq hleft)
        · rw [hpair] at hcases
          have hphase : r'.phase = .spent := hcases.1
          refine ⟨hphase ▸ Phase.spent_ne_unread, ?_⟩
          rw [pending_of_spent hphase]
          exact Nat.zero_le _
      · rw [if_neg hmore]
        exact ⟨Phase.spent_ne_unread, Nat.zero_le _⟩
    · have hrun : read { r with phase := .spent }
          = .error (.source fault) { r with phase := .spent, feed := r.feed.missed } := by
        rw [read, hread]
      rw [bind_of_error hrun]
      exact ⟨Phase.spent_ne_unread, Nat.zero_le _⟩
  · rw [if_neg hnext]
    exact ⟨Phase.spent_ne_unread, Nat.zero_le _⟩

theorem fill_cases (hphase : r.phase = .unread) : match fill r with
    | .ok _ r' => r'.phase ≠ .unread ∧ pending r' ≤ r.feed.left
    | .error _ r' => r'.phase ≠ .unread ∧ pending r' ≤ r.feed.left := by
  have hfill : fill r = (readFirst >>= fun _ => skipIdle) r := by rw [fill, get_bind, hphase]
  have hfirst := readFirst_cases r
  rw [hfill]
  rcases hread : readFirst r with ⟨_, r₁⟩ | ⟨fault, r₁⟩
  · rw [hread] at hfirst
    have hskip := skipIdle_cases hfirst.1
    rw [bind_of_ok hread]
    rcases hrun : skipIdle r₁ with ⟨_, r'⟩ | ⟨fault, r'⟩
    · rw [hrun] at hskip
      exact ⟨hskip.1, Nat.le_trans hskip.2 hfirst.2⟩
    · rw [hrun] at hskip
      exact ⟨hskip.1, Nat.le_trans hskip.2.1 hfirst.2⟩
  · rw [hread] at hfirst
    rw [bind_of_error hread]
    exact hfirst

/-- Runs have always begun once they were asked. -/
theorem course : Course (fun r : Runs => r.phase = .unread) (fun r => r.phase ≠ .unread)
    (fun _ _ => False) Blocked where
  hasValue hbegun := hasValue_of_begun hbegun
  start {r} hphase := by
    have hpending : pending r = r.feed.left := by rw [pending, hphase]
    have hcases := fill_cases hphase
    rw [← hpending] at hcases
    rcases hfill : fill r with ⟨_, r'⟩ | ⟨fault, r'⟩
    · rw [hfill] at hcases
      have hsame : ValueStream.hasValue r = ValueStream.hasValue r' := by
        have hagain : hasValue r' = holdsLive r' := bind_of_ok (fill_of_begun hcases.1)
        exact (bind_of_ok hfill).trans hagain.symm
      rcases hasValue_of_begun hcases.1 with ⟨more, hagain⟩ | ⟨fault, hhalted⟩
      · rw [hsame.trans hagain]
        exact ⟨hcases.1, hagain, hcases.2⟩
      · rw [hsame.trans hhalted]
        exact Or.inl hcases
    · rw [hfill] at hcases
      have hrun : ValueStream.hasValue r = .error fault r' := bind_of_error hfill
      rw [hrun]
      exact Or.inl hcases
  nextValue {r} hbegun hmore := by
    have hhas : hasValue r = .ok true r := hmore
    rcases hphase : r.phase with _ | pair | _
    · exact absurd hphase hbegun
    · obtain ⟨hclocked, hlive⟩ := clocked_of_hasValue hphase hhas
      have hstep : ValueStream.nextValue r = (do advance; return amount r.counter pair) r :=
        nextValue_of_live hphase hclocked hlive
      have hcases := advance_cases hphase
      rw [hstep]
      rcases hrun : advance r with ⟨_, r'⟩ | ⟨fault, r'⟩
      · rw [hrun] at hcases
        rw [bind_of_ok hrun]
        exact hcases
      · rw [hrun] at hcases
        obtain ⟨hsame, hcounter, -, hcause⟩ := hcases
        rw [bind_of_error hrun]
        refine ⟨hsame ▸ hbegun, hcause.imp_right fun hblocked => ⟨hblocked, ?_⟩⟩
        show hasValue r' = .ok true r'
        rw [hasValue_of_clocked (hsame.trans hphase) (hcounter ▸ hclocked), hcounter, hlive]
    · exact absurd (hhas.symm.trans (ended_of_spent hphase)) (by simp)
  openNext {r} hbegun _ := by
    have hopen : BucketCursor.openNext r = skipIdle r := bind_of_ok (fill_of_begun hbegun)
    have hcases := skipIdle_cases hbegun
    rw [hopen]
    rcases hrun : skipIdle r with ⟨_, r'⟩ | ⟨fault, r'⟩
    · rw [hrun] at hcases
      exact hcases
    · rw [hrun] at hcases
      exact ⟨hcases.1, hcases.2.2⟩
  seek time := fun _ _ => Classical.em _

end Runs

end TimeBuckets
