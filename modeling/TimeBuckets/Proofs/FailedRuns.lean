/-
Reads that fail below runs.

* `Runs.Twin` — runs that have begun, next to the same runs above a feed that never fails;
* `Runs.matches_skipIdle` — a failure between two runs leaves a pair from which the next one is
  found;
* `Runs.resuming` — runs that have begun resume after a failure;
* `Runs.Lost`, `Runs.Interrupted` — what a failure leaves of runs that had read nothing;
* `Runs.failed_reads_cases` — no failure ends runs that have begun, but it may end fresh ones.

Fresh runs are given up before their first two samples are read, and they hold something only when
both of these are there.  A read that fails in between leaves them as if nothing were left.
-/
import TimeBuckets.Proofs.Course
import TimeBuckets.Proofs.Insisting

namespace TimeBuckets

namespace Runs

variable {faults : List (Nat × SourceFault)} {n : Nat} {r r' d d' : Runs} {pair : Pair}

/-! ### Runs that have begun -/

/-- The runs above the calm feed. -/
def calm (r : Runs) : Runs := { r with feed := r.feed.calm }

/-- The second runs are the first ones above a feed that never fails, and both have begun to
read. -/
inductive Twin (faults : List (Nat × SourceFault)) (n : Nat) (r : Runs) : Runs → Prop
  | mk {f : Feed} (hbegun : r.phase ≠ .unread) (h : r.feed.Twin faults n f) :
    Twin faults n r { r with feed := f }

theorem twin_calm (hbegun : r.phase ≠ .unread) :
    Twin r.feed.readFaults r.feed.reads r r.calm := ⟨hbegun, r.feed.twin_calm⟩

namespace Twin

theorem begun (h : Twin faults n r d) : r.phase ≠ .unread := by
  obtain ⟨hbegun, -⟩ := h
  exact hbegun

theorem calm_eq (h : Twin faults n r d) : d.calm = r.calm := by
  obtain ⟨-, h⟩ := h
  rw [calm, calm, h.calm_eq]

theorem text_eq (h : Twin faults n r d) : d.text = r.text := by
  obtain ⟨-, h⟩ := h
  unfold Runs.text
  rw [h.text_eq]
  rfl

theorem phase_eq (h : Twin faults n r d) : d.phase = r.phase := by
  obtain ⟨-, -⟩ := h
  rfl

theorem counter_eq (h : Twin faults n r d) : d.counter = r.counter := by
  obtain ⟨-, -⟩ := h
  rfl

theorem position_eq (h : Twin faults n r d) : d.feed.position = r.feed.position := by
  obtain ⟨-, h⟩ := h
  exact h.position_eq

theorem hasNext_eq (h : Twin faults n r d) : d.feed.hasNext = r.feed.hasNext := by
  obtain ⟨-, h⟩ := h
  exact h.hasNext_eq

theorem withPhase (h : Twin faults n r d) {phase : Phase Pair} (hbegun : phase ≠ .unread) :
    Twin faults n { r with phase := phase } { d with phase := phase } := by
  obtain ⟨-, h⟩ := h
  exact ⟨hbegun, h⟩

theorem withStart (h : Twin faults n r d) (start : Word) :
    Twin faults n { r with start := start } { d with start := start } := by
  obtain ⟨hbegun, h⟩ := h
  exact ⟨hbegun, h⟩

end Twin

theorem follows_read (h : Twin faults n r d) : Follows (Twin faults) n read r d := by
  obtain ⟨hbegun, h⟩ := h
  rcases h.next_cases with ⟨s, he, hf⟩ | ⟨he, hf, hread⟩ | ⟨fault, he, hfailed⟩
  · refine Or.inl ?_
    rw [read, read, he, hf]
    exact .ok ⟨hbegun, h.advanced⟩
  · refine Or.inl ?_
    rw [read, read, he, hf]
    exact .error ⟨hbegun, h.missed⟩ hread
  · exact Or.inr ⟨_, rfl, .source fault, { r with feed := r.feed.missed }, by rw [read, he],
      hfailed, ⟨hbegun, h.missed_left⟩⟩

theorem follows_pairWith (previous : Sample) (h : Twin faults n r d) :
    Follows (Twin faults) n (pairWith previous) r d := by
  refine (follows_read h).bind fun current r' d' _ _ h' => Or.inl ?_
  rw [get_bind, get_bind, h'.text_eq]
  rcases hcheck : checkOrder previous current r'.text with fault | _
  · exact .error h' (Feed.not_lastFailed_of_checkOrder hcheck)
  · exact .ok (h'.withPhase (Phase.ready_ne_unread _))

theorem follows_advance (h : Twin faults n r d) : Follows (Twin faults) n advance r d := by
  rcases hphase : r.phase with _ | pair | _
  case ready =>
    have hphase' := h.phase_eq.trans hphase
    by_cases hmore : r.feed.hasNext = true
    · refine Matches.congr ?_ ?_ (follows_pairWith pair.current h)
      · rw [advance, get_bind, hphase]
        simp only [hmore, if_true]
      · rw [advance, get_bind, hphase']
        simp only [h.hasNext_eq, hmore, if_true]
    · refine Or.inl ?_
      rw [advance, get_bind, get_bind, hphase, hphase']
      simp only [h.hasNext_eq, hmore]
      exact .ok (h.withPhase Phase.spent_ne_unread)
  all_goals
    refine Or.inl ?_
    rw [advance, get_bind, get_bind, h.phase_eq, hphase]
    exact .ok h

theorem skipIdle_of_spent (hphase : r.phase = .spent) : skipIdle r = .ok () r := by
  rw [skipIdle, get_bind, skip, get_bind, hphase]
  rfl

theorem skipIdle_of_not_clocked (hphase : r.phase = .ready pair)
    (hclocked : pair.clocked r.counter = false) : skipIdle r = .error .overflow r := by
  rw [skipIdle, get_bind, skip_of_not_clocked hphase hclocked]

theorem skipIdle_of_live (hphase : r.phase = .ready pair) (hclocked : pair.clocked r.counter = true)
    (hlive : isLive r.counter pair = true) :
    skipIdle r = .ok () { r with start := pair.previous.time } := by
  rw [skipIdle, get_bind, skip_of_live hphase hclocked hlive]

/-- One pair is left after the other, whatever bounds their number. -/
theorem skipIdle_of_idle (hphase : r.phase = .ready pair) (hclocked : pair.clocked r.counter = true)
    (hidle : isLive r.counter pair = false) :
    skipIdle r = (advance >>= fun _ => skipIdle) r := by
  have hskip : skipIdle r = (advance >>= fun _ => skip r.feed.left) r := by
    rw [skipIdle, get_bind, skip_of_idle hphase hclocked hidle]
  rw [hskip]
  rcases hadvance : advance r with ⟨_, r'⟩ | ⟨fault, r'⟩
  · rw [bind_of_ok hadvance, bind_of_ok hadvance]
    by_cases hmore : r.feed.hasNext = true
    · have hstep : advance r = pairWith pair.current r := by
        rw [advance, get_bind, hphase]
        simp only [hmore, if_true]
      have hcases := pairWith_cases pair.current hmore
      rw [← hstep, hadvance] at hcases
      rw [skipIdle, get_bind, hcases.2]
    · have hstep : advance r = .ok () { r with phase := .spent } := by
        rw [advance, get_bind, hphase]
        simp only [hmore]
        rfl
      obtain ⟨-, rfl⟩ := EStateM.Result.ok.inj (hstep.symm.trans hadvance)
      rw [skipIdle_of_spent rfl]
      rcases r.feed.left with _ | left
      · rfl
      · rfl
  · rw [bind_of_error hadvance, bind_of_error hadvance]

/-- The pair that was read ahead lies between runs. -/
def Idle (r : Runs) : Prop :=
  ∃ pair, r.phase = .ready pair ∧ pair.clocked r.counter = true ∧ isLive r.counter pair = false

theorem Idle.begun (h : Idle r) : r.phase ≠ .unread := by
  obtain ⟨pair, hphase, -⟩ := h
  exact hphase ▸ Phase.ready_ne_unread pair

theorem Idle.phase_ne_spent (h : Idle r) : r.phase ≠ .spent := by
  obtain ⟨pair, hphase, -⟩ := h
  exact hphase ▸ Phase.ready_ne_spent pair

theorem Idle.ended (h : Idle r) : Ended r := by
  obtain ⟨pair, hphase, hclocked, hidle⟩ := h
  have hrun := hasValue_of_clocked hphase hclocked
  rwa [hidle] at hrun

/-- A failure between two runs leaves an idle pair, from which the next run is found as well. -/
theorem matches_skipIdle (h : Twin faults n r d) :
    Matches (fun d' => Idle d' ∧ skipIdle d' = skipIdle d) (Twin faults) n skipIdle r d := by
  -- on what is still to come, of which each step leaves less
  induction hpending : pending r using Nat.strongRecOn generalizing r d with
  | _ m ih =>
    subst hpending
    rcases hphase : r.phase with _ | pair | _
    · exact absurd hphase h.begun
    · have hphase' := h.phase_eq.trans hphase
      rcases hclocked : pair.clocked r.counter with _ | _
      · refine Or.inl ?_
        rw [skipIdle_of_not_clocked hphase hclocked,
          skipIdle_of_not_clocked hphase' (h.counter_eq ▸ hclocked)]
        exact .error h (Feed.not_lastFailed_of_ne nofun)
      have hclocked' : pair.clocked d.counter = true := h.counter_eq ▸ hclocked
      rcases hidle : isLive r.counter pair with _ | _
      · have hidle' : isLive d.counter pair = false := h.counter_eq ▸ hidle
        have hstep := skipIdle_of_idle hphase' hclocked' hidle'
        refine Matches.congr (skipIdle_of_idle hphase hclocked hidle) hstep ?_
        refine ((follows_advance h).imp ?_).bind fun _ r' d' hrun hrun' h' => ?_
        · rintro _ rfl
          exact ⟨⟨pair, hphase', hclocked', hidle'⟩, rfl⟩
        · have hless := advance_cases hphase
          rw [hrun] at hless
          refine (ih _ hless.2 h' rfl).imp fun d'' hd'' => ⟨hd''.1, ?_⟩
          rw [hstep, bind_of_ok hrun', hd''.2]
      · have hlive' : isLive d.counter pair = true := h.counter_eq ▸ hidle
        refine Or.inl ?_
        rw [skipIdle_of_live hphase hclocked hidle, skipIdle_of_live hphase' hclocked' hlive']
        exact .ok (h.withStart _)
    · refine Or.inl ?_
      rw [skipIdle_of_spent hphase, skipIdle_of_spent (h.phase_eq.trans hphase)]
      exact .ok h

theorem skipIdle_of_skipIdle (hbegun : r.phase ≠ .unread) (h : skipIdle r = .ok () r') :
    skipIdle r' = .ok () r' := by
  induction hpending : pending r using Nat.strongRecOn generalizing r with
  | _ m ih =>
    subst hpending
    rcases hphase : r.phase with _ | pair | _
    · exact absurd hphase hbegun
    · rcases hclocked : pair.clocked r.counter with _ | _
      · cases (skipIdle_of_not_clocked hphase hclocked).symm.trans h
      rcases hidle : isLive r.counter pair with _ | _
      · rw [skipIdle_of_idle hphase hclocked hidle] at h
        obtain ⟨_, r₁, hrun, hrest⟩ := of_bind_ok h
        have hless := advance_cases hphase
        rw [hrun] at hless
        exact ih _ hless.2 hless.1 hrest rfl
      · rw [skipIdle_of_live hphase hclocked hidle] at h
        obtain ⟨-, rfl⟩ := EStateM.Result.ok.inj h
        exact skipIdle_of_live hphase hclocked hidle
    · rw [skipIdle_of_spent hphase] at h
      obtain ⟨-, rfl⟩ := EStateM.Result.ok.inj h
      exact skipIdle_of_spent hphase

/-- A value that cannot be read leaves everything as it was. -/
theorem matches_nextValue (h : Twin faults n r d) :
    Matches (fun d' => d' = d ∧ d'.phase ≠ .spent) (Twin faults) n nextValue r d := by
  have hended (hr : Ended r) (hd : Ended d) :
      Matches (fun d' => d' = d ∧ d'.phase ≠ .spent) (Twin faults) n nextValue r d := by
    refine Or.inl ?_
    rw [nextValue_of_none hr, nextValue_of_none hd, h.text_eq]
    exact .error h (Feed.not_lastFailed_of_ne nofun)
  rcases hphase : r.phase with _ | pair | _
  · exact absurd hphase h.begun
  · have hphase' := h.phase_eq.trans hphase
    rcases hclocked : pair.clocked r.counter with _ | _
    · refine Or.inl ?_
      rw [nextValue_of_not_clocked hphase hclocked,
        nextValue_of_not_clocked hphase' (h.counter_eq ▸ hclocked)]
      exact .error h (Feed.not_lastFailed_of_ne nofun)
    have hclocked' : pair.clocked d.counter = true := h.counter_eq ▸ hclocked
    rcases hlive : isLive r.counter pair with _ | _
    · have hlive' : isLive d.counter pair = false := h.counter_eq ▸ hlive
      exact hended (Idle.ended ⟨pair, hphase, hclocked, hlive⟩)
        (Idle.ended ⟨pair, hphase', hclocked', hlive'⟩)
    · have hlive' : isLive d.counter pair = true := h.counter_eq ▸ hlive
      have hstep := nextValue_of_live hphase' hclocked' hlive'
      rw [h.counter_eq] at hstep
      refine Matches.congr (nextValue_of_live hphase hclocked hlive) hstep ?_
      refine ((follows_advance h).imp ?_).bind fun _ _ _ _ _ h' => Or.inl (.ok h')
      rintro _ rfl
      exact ⟨rfl, hphase' ▸ Phase.ready_ne_spent pair⟩
  · exact hended (ended_of_spent hphase) (ended_of_spent (h.phase_eq.trans hphase))

theorem answered_holdsLive (h : Twin faults n r d) :
    Answered (Twin faults n) (holdsLive r) (holdsLive d) := by
  have hphase' := h.phase_eq
  rcases hphase : r.phase with _ | pair | _
  · exact absurd hphase h.begun
  · rw [hphase] at hphase'
    rcases hclocked : pair.clocked r.counter with _ | _
    · rw [holdsLive_of_not_clocked hphase hclocked,
        holdsLive_of_not_clocked hphase' (h.counter_eq ▸ hclocked)]
      exact .error h (Feed.not_lastFailed_of_ne nofun)
    · rw [holdsLive_of_clocked hphase hclocked,
        holdsLive_of_clocked hphase' (h.counter_eq ▸ hclocked), h.counter_eq]
      exact .ok h
  · rw [holdsLive, get_bind, get_bind, hphase', hphase]
    exact .ok h

theorem answered_hasValue (h : Twin faults n r d) :
    Answered (Twin faults n) (hasValue r) (hasValue d) := by
  rw [hasValue, bind_of_ok (fill_of_begun h.begun),
    bind_of_ok (fill_of_begun (h.phase_eq ▸ h.begun))]
  exact answered_holdsLive h

theorem openNext_of_begun (hbegun : r.phase ≠ .unread) : openNext r = skipIdle r :=
  bind_of_ok (fill_of_begun hbegun)

theorem resuming : Resuming (Twin faults) where
  bucketTime h := by
    obtain ⟨-, -⟩ := h
    rfl
  bucketTime_ne _ _ := nofun
  setWidth _ h := h
  setEnd _ h := h
  hasValue h := Or.inl (answered_hasValue h)
  nextValue h := (matches_nextValue h).imp fun _ hd' => congrArg nextValue hd'.1
  openNext {n r d} h := by
    have hbegun : d.phase ≠ .unread := h.phase_eq ▸ h.begun
    refine Matches.congr (openNext_of_begun h.begun) (openNext_of_begun hbegun) ?_
    refine (matches_skipIdle h).imp fun d' hd' => ?_
    show openNext d' = openNext d
    rw [openNext_of_begun hd'.1.begun, openNext_of_begun hbegun, hd'.2]

theorem counted : Counted faults (Twin faults) := fun h => by
  obtain ⟨-, h⟩ := h
  exact ⟨h.faults_eq, h.reads_le⟩

theorem matches_perform {call : Call} (hcall : call.reads = true) (h : Twin faults n r d) :
    Matches (fun d' => d'.phase ≠ .spent) (Twin faults) n call.perform r d := by
  cases call with
  | hasValue => exact Matches.map (Or.inl (answered_hasValue h)) Reply.more
  | nextValue => exact ((matches_nextValue h).imp fun _ => And.right).map Reply.value
  | openNext =>
    have hopen := (matches_skipIdle h).imp fun d' hd' => hd'.1.phase_ne_spent
    refine Matches.map (Matches.congr (openNext_of_begun h.begun) ?_ hopen) fun _ => Reply.done
    exact openNext_of_begun (h.phase_eq ▸ h.begun)
  | _ => exact absurd hcall Bool.false_ne_true

/-! ### Runs that have read nothing -/

/-- Reads the first two samples, if there are as many. -/
def readPair : EStateM Fault Runs Unit := do
  if (← get).feed.hasNext then
    let first ← read
    if (← get).feed.hasNext then
      pairWith first

theorem fill_of_unread_eq (hphase : r.phase = .unread) :
    fill r = (readPair >>= fun _ => skipIdle) { r with phase := .spent } := by
  rw [fill, get_bind, hphase]
  rfl

theorem of_read_ok {s : Sample} (h : read r = .ok s r') :
    r' = { r with feed := r.feed.advanced } := by
  rw [read] at h
  rcases r.feed.next_cases with ⟨s', rest, -, hnext⟩ | ⟨fault, hnext, -⟩
  · rw [hnext] at h
    exact (EStateM.Result.ok.inj h).2.symm
  · rw [hnext] at h
    cases h

/-- The second runs have given up although there are samples left, and have taken one of them at
most. -/
structure Lost (r r' : Runs) : Prop where
  phase_eq : r'.phase = .spent
  hasNext : r'.feed.hasNext = true
  position_le : r'.feed.position ≤ r.feed.position + 1

theorem matches_readPair (hphase : r.phase = .spent) (h : Twin faults n r d) :
    Matches (Lost d) (Twin faults) n readPair r d := by
  have hphase' := h.phase_eq.trans hphase
  rw [Matches, readPair, get_bind, get_bind, h.hasNext_eq]
  by_cases hmore : r.feed.hasNext = true
  · rw [if_pos hmore]
    refine ((follows_read h).imp ?_).bind fun first r' d' _ hread h' => ?_
    · rintro _ rfl
      exact ⟨hphase', h.hasNext_eq.trans hmore, Nat.le_succ _⟩
    · obtain rfl := of_read_ok hread
      rw [Matches, get_bind, get_bind, h'.hasNext_eq]
      by_cases hmore' : r'.feed.hasNext = true
      · rw [if_pos hmore']
        refine (follows_pairWith first h').imp ?_
        rintro _ rfl
        exact ⟨hphase', h'.hasNext_eq.trans hmore', Nat.le_refl _⟩
      · rw [if_neg hmore']
        exact Or.inl (.ok h')
  · rw [if_neg hmore]
    exact Or.inl (.ok h)

/-- Reading ahead for the first time loses the runs, or fails between two of them. -/
theorem matches_fill (hphase : r.phase = .unread) :
    Matches (fun d' => Lost r.calm d' ∨ Idle d' ∧ skipIdle d' = fill r.calm)
      (Twin r.feed.readFaults) r.feed.reads fill r r.calm := by
  have htwin : Twin r.feed.readFaults r.feed.reads { r with phase := .spent }
      { r.calm with phase := .spent } := ⟨Phase.spent_ne_unread, r.feed.twin_calm⟩
  have hfill := fill_of_unread_eq (r := r.calm) hphase
  rw [Matches, fill_of_unread_eq hphase, hfill]
  refine ((matches_readPair rfl htwin).imp fun d' hlost => Or.inl ?_).bind
    fun _ r' d' _ hrun h' => (matches_skipIdle h').imp fun d'' hd'' => Or.inr ⟨hd''.1, ?_⟩
  · exact ⟨hlost.phase_eq, hlost.hasNext, hlost.position_le⟩
  · rw [hd''.2, bind_of_ok hrun]

theorem skipIdle_of_fill (hphase : r.phase = .unread) (h : fill r = .ok () r') :
    skipIdle r' = .ok () r' := by
  rw [fill_of_unread_eq hphase] at h
  obtain ⟨_, r₁, hread, hskip⟩ := of_bind_ok h
  refine skipIdle_of_skipIdle ?_ hskip
  have hbegun := readFirst_cases r
  rw [show readFirst r = readPair { r with phase := .spent } from rfl, hread] at hbegun
  exact hbegun.1

/-- The first run is opened as soon as samples are read. -/
theorem openNext_of_unread (hphase : r.phase = .unread) : openNext r = fill r := by
  rcases hfill : fill r with ⟨_, r'⟩ | ⟨fault, r'⟩
  · rw [openNext, bind_of_ok hfill, skipIdle_of_fill hphase hfill]
  · rw [openNext, bind_of_error hfill]

theorem fill_of_hasValue {more : Bool} (h : hasValue r = .ok more r') : fill r = .ok () r' := by
  obtain ⟨_, r₁, hfill, hlive⟩ := of_bind_ok h
  have hsame := keeps_holdsLive (P := (· = r₁)) r₁ rfl
  rw [after_of_ok hlive] at hsame
  rwa [hsame]

theorem asked_of_hasValue {more : Bool} (h : hasValue r = .ok more r') :
    r'.phase ≠ .unread ∧ hasValue r' = .ok more r' := course.asked (Classical.em _) h

/-- After fresh runs have said that they have a value, calls give what they would have given. -/
theorem perform_of_hasValue {call : Call} (hphase : r.phase = .unread)
    (h : hasValue r = .ok true r') (hcall : call.reads = true) :
    call.perform r' = call.perform r := by
  obtain ⟨hbegun, hagain⟩ := asked_of_hasValue h
  cases call with
  | hasValue => exact bind_congr_state (hagain.trans h.symm)
  | nextValue =>
    refine bind_congr_state ?_
    show nextValue r' = nextValue r
    rw [nextValue, bind_of_ok h, bind_of_ok hagain]
  | openNext =>
    refine bind_congr_state ?_
    show openNext r' = openNext r
    have hfill := fill_of_hasValue h
    rw [openNext_of_unread hphase, hfill, openNext_of_begun hbegun, skipIdle_of_fill hphase hfill]
  | _ => exact absurd hcall Bool.false_ne_true

/-- What a failed call leaves of runs that had read nothing. -/
def Broken (r : Runs) (call : Call) (d : Runs) : Prop :=
  Lost r d ∨ Idle d ∧ openNext d = openNext r ∨ call = .nextValue ∧ hasValue r = .ok true d

theorem matches_perform_of_unread {call : Call} (hphase : r.phase = .unread)
    (hcall : call.reads = true) :
    Matches (Broken r.calm call) (Twin r.feed.readFaults) r.feed.reads call.perform r r.calm := by
  have hphase' : r.calm.phase = .unread := hphase
  have hfill : Matches (Broken r.calm call) (Twin r.feed.readFaults) r.feed.reads fill r
      r.calm := by
    refine (matches_fill hphase).imp fun d' hd' => hd'.imp_right fun hidle => Or.inl ⟨hidle.1, ?_⟩
    rw [openNext_of_begun hidle.1.begun, hidle.2, openNext_of_unread hphase']
  have hask : Matches (Broken r.calm call) (Twin r.feed.readFaults) r.feed.reads hasValue r
      r.calm :=
    hfill.bind fun _ _ _ _ _ h' => Or.inl (answered_holdsLive h')
  cases call with
  | hasValue => exact hask.map Reply.more
  | nextValue =>
    refine Matches.map (hask.bind fun more r' d' hrun hrun' h' => ?_) Reply.value
    cases more with
    | false =>
      refine Or.inl ?_
      rw [get_bind, get_bind, if_neg Bool.false_ne_true, if_neg Bool.false_ne_true, h'.text_eq]
      exact .error h' (Feed.not_lastFailed_of_ne nofun)
    | true =>
      -- from here on the call does what it does when it is made again
      refine ((matches_nextValue h').imp ?_).congr ?_ ?_
      · rintro _ ⟨rfl, -⟩
        exact Or.inr (Or.inr ⟨rfl, hrun'⟩)
      · rw [nextValue, bind_of_ok (asked_of_hasValue hrun).2]
      · rw [nextValue, bind_of_ok (asked_of_hasValue hrun').2]
  | openNext =>
    exact Matches.map (hfill.congr (openNext_of_unread hphase) (openNext_of_unread hphase'))
      fun _ => Reply.done
  | _ => exact absurd hcall Bool.false_ne_true

/-! ### Failed reads -/

theorem perform_of_spent {call : Call} (hphase : r.phase = .spent) (hcall : call.jumps = false) :
    (∃ reply, call.perform r = .ok reply r) ∨ ∃ fault, call.perform r = .error fault r := by
  have hended : Ended r := ended_of_spent hphase
  cases call with
  | hasValue => exact Or.inl ⟨.more false, bind_of_ok hended⟩
  | nextValue => exact Or.inr ⟨_, bind_of_error (nextValue_of_none hended)⟩
  | bucketTime => exact Or.inl ⟨.time r.start, rfl⟩
  | openNext =>
    have hopen : BucketCursor.openNext r = .ok () r :=
      (openNext_of_begun (hphase ▸ Phase.spent_ne_unread)).trans (skipIdle_of_spent hphase)
    exact Or.inl ⟨.done, bind_of_ok hopen⟩
  | setWidth width => exact Or.inl ⟨.done, rfl⟩
  | setEnd last => exact Or.inl ⟨.done, rfl⟩
  | seek time => exact absurd hcall.symm Bool.false_ne_true
  | reposition time => exact absurd hcall.symm Bool.false_ne_true

/-- Only a jump brings spent runs back. -/
theorem performAll_of_spent (hphase : r.phase = .spent) :
    ∀ {calls : List Call}, (∀ call ∈ calls, call.jumps = false) → (performAll calls r).2 = r := by
  intro calls
  induction calls with
  | nil => exact fun _ => rfl
  | cons call rest ih =>
    intro hcalls
    have hrest := ih fun other hother => hcalls other (List.mem_cons_of_mem call hother)
    rw [performAll]
    rcases perform_of_spent hphase (hcalls call List.mem_cons_self) with
      ⟨reply, hrun⟩ | ⟨fault, hrun⟩
    · rw [hrun]
      exact hrest
    · rw [hrun]
      exact hrest

/-- What a failed call leaves of runs that had read nothing.  If one of the first two samples could
not be read, all of them are lost.  If a pair between two runs could not be left, there seems to be
no value, but the next run can be opened.  A value that could not be read is read again. -/
inductive Interrupted (r : Runs) (call : Call) (r' : Runs) : Prop
  | lost (hlost : Lost r r') (hrest : ∀ calls : List Call, (∀ call ∈ calls, call.jumps = false) →
      (performAll calls r').2 = r')
  | idle (hended : Ended r') {d : Runs} (hcalm : d.calm = r'.calm)
    (hopen : openNext d = openNext r.calm)
  | held (hcall : call = .nextValue) {d : Runs} (hcalm : d.calm = r'.calm)
    (hask : hasValue r.calm = .ok true d)
    (hsame : ∀ other : Call, other.reads = true → other.perform d = other.perform r.calm)

/-- Runs that have begun to read are not spent by a read that fails, and calls on which one insists
give what they give when no read fails.  Runs that have read nothing are interrupted. -/
theorem failed_reads_cases (r : Runs) :
    (r.phase ≠ .unread → Recovers calm r) ∧
    ∀ (call : Call) (fault : Fault) (r' : Runs), call.reads = true →
      call.perform r = .error fault r' → r'.feed.LastFailed fault →
      (r.phase ≠ .unread → r'.phase ≠ .spent) ∧ (r.phase = .unread → Interrupted r call r') := by
  refine ⟨fun hbegun => resuming.recovers counted Twin.calm_eq (twin_calm hbegun),
    fun call fault r' hcall hrun hfailed => ⟨fun hbegun => ?_, fun hphase => ?_⟩⟩
  · obtain ⟨d, hd, hmissed⟩ := (matches_perform hcall (twin_calm hbegun)).of_failed hrun hfailed
    exact hmissed.phase_eq ▸ hd
  · obtain ⟨d, hd, hmissed⟩ := (matches_perform_of_unread hphase hcall).of_failed hrun hfailed
    rcases hd with hlost | ⟨hidle, hopen⟩ | ⟨hvalue, hask⟩
    · have hspent := hmissed.phase_eq.symm.trans hlost.phase_eq
      refine .lost ⟨hspent, hmissed.hasNext_eq.symm.trans hlost.hasNext, ?_⟩
        fun calls hcalls => performAll_of_spent hspent hcalls
      exact hmissed.position_eq ▸ hlost.position_le
    · have hheld : Idle r' := by
        obtain ⟨pair, hready, hclocked, hnone⟩ := hidle
        exact ⟨pair, hmissed.phase_eq ▸ hready, hmissed.counter_eq ▸ hclocked,
          hmissed.counter_eq ▸ hnone⟩
      exact .idle hheld.ended hmissed.calm_eq hopen
    · exact .held hvalue hmissed.calm_eq hask fun other hother =>
        perform_of_hasValue hphase hask hother

/-- Three samples, of which the first one cannot be read at first. -/
theorem failed_reads_cases_of_three :
    ∃ r r' : Runs, ∃ fault : SourceFault,
      r = make { Feed.ofSamples [⟨0, .whole 0⟩, ⟨10, .whole 1⟩, ⟨20, .whole 0⟩] with
        readFaults := [(1, fault)] } none ∧
      Call.hasValue.perform r = .error (.source fault) r' ∧ Interrupted r .hasValue r' ∧
      Recovers calm r' := by
  obtain ⟨r, hmake⟩ : ∃ r, r = make { Feed.ofSamples [⟨0, .whole 0⟩, ⟨10, .whole 1⟩,
    ⟨20, .whole 0⟩] with readFaults := [(1, .disorderReported "first read")] } none := ⟨_, rfl⟩
  obtain ⟨r', hrun, hfailed, hbegun⟩ : ∃ r', Call.hasValue.perform r
        = .error (.source (.disorderReported "first read")) r' ∧
      r'.feed.LastFailed (.source (.disorderReported "first read")) ∧ r'.phase ≠ .unread := by
    subst hmake
    exact ⟨_, rfl, ⟨_, rfl, rfl⟩, nofun⟩
  refine ⟨r, r', _, hmake, hrun, ?_, (failed_reads_cases r').1 hbegun⟩
  exact ((failed_reads_cases r).2 .hasValue _ r' rfl hrun hfailed).2 (by rw [hmake]; rfl)

/-- After a first read that fails, runs are spent with all their samples left. -/
theorem failed_first_read_spends :
    ∃ r r' d : Runs, ∃ fault : SourceFault,
      r = make { Feed.ofSamples [⟨0, .whole 0⟩, ⟨10, .whole 1⟩, ⟨20, .whole 0⟩] with
        readFaults := [(1, fault)] } none ∧
      Call.hasValue.perform r = .error (.source fault) r' ∧ r'.feed.LastFailed (.source fault) ∧
      r'.phase = .spent ∧ r'.feed.hasNext = true ∧
      Call.hasValue.perform r' = .ok (.more false) r' ∧
      Call.hasValue.perform r.calm = .ok (.more true) d :=
  ⟨_, _, _, .disorderReported "first read", rfl, rfl, ⟨_, rfl, rfl⟩, rfl, rfl, rfl, rfl⟩

end Runs

end TimeBuckets
