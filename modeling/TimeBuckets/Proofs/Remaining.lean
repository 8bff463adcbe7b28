/-
Feeds behave like the samples that remain of them.

* `Inquiry` — what is asked of a feed, as an operation of the feed and as one of a list of samples;
* `runAll` — operations one after the other, with what each of them gives;
* `Tracks`, `runAll_of_tracks` — two results that are alike, and runs that are so at every step;
* `Feed.Refines` — a feed gives what the samples give that remain of it;
* `Feed.refines_remaining` — whatever is asked of a feed over samples in order, at any position.

On the side of the samples a jump looks at each of them and forgets where it was, whereas the feed
halves a range and keeps its place as an index.
-/
import TimeBuckets.Proofs.Feed

namespace TimeBuckets

/-! ### Inquiries -/

/-- What is asked of a feed. -/
inductive Inquiry
  | hasNext
  | next
  | seek (time : Word)

/-- What an inquiry gives. -/
inductive Finding
  | more (more : Bool)
  | sample (s : Sample)
  | done

namespace Inquiry

/-- The inquiry as an operation of a feed. -/
def ofFeed : Inquiry → EStateM SourceFault Feed Finding
  | hasNext => do return .more (← get).hasNext
  | next => do return .sample (← Feed.next)
  | seek time => do
    Feed.seek time
    return .done

/-- The inquiry as an operation of the samples that remain of some samples.  The first of them is
taken, and a jump leaves all those at a time or later. -/
def ofRemaining (samples : List Sample) : Inquiry → EStateM SourceFault (List Sample) Finding
  | hasNext => do return .more (!(← get).isEmpty)
  | next => do
    match ← get with
    | [] => throw .exhausted
    | s :: rest =>
      set rest
      return .sample s
  | seek time => do
    set (samples.filter fun s => time ≤ s.time)
    return .done

end Inquiry

/-! ### Runs that track one another -/

section Runs

variable {ε σ τ α β : Type} {R : σ → τ → Prop} {perform : β → EStateM ε σ α}
  {perform' : β → EStateM ε τ α}

/-- Two results with the same answer or the same fault, and related states. -/
inductive Tracks (R : σ → τ → Prop) : EStateM.Result ε σ α → EStateM.Result ε τ α → Prop
  | ok {a : α} {c : σ} {d : τ} (h : R c d) : Tracks R (.ok a c) (.ok a d)
  | error {e : ε} {c : σ} {d : τ} (h : R c d) : Tracks R (.error e c) (.error e d)

/-- What operations give, one after the other, and the state that they leave behind. -/
def runAll (perform : β → EStateM ε σ α) : List β → σ → List (Except ε α) × σ
  | [], c => ([], c)
  | b :: rest, c =>
    match perform b c with
    | .ok a c' => (.ok a :: (runAll perform rest c').1, (runAll perform rest c').2)
    | .error e c' => (.error e :: (runAll perform rest c').1, (runAll perform rest c').2)

/-- Runs track one another if every step does. -/
theorem runAll_of_tracks (hstep : ∀ b c d, R c d → Tracks R (perform b c) (perform' b d))
    (bs : List β) {c : σ} {d : τ} (h : R c d) :
    (runAll perform bs c).1 = (runAll perform' bs d).1 ∧
      R (runAll perform bs c).2 (runAll perform' bs d).2 := by
  induction bs generalizing c d with
  | nil => exact ⟨rfl, h⟩
  | cons b rest ih =>
    have htracks := hstep b c d h
    rw [runAll, runAll]
    generalize perform b c = x at htracks
    generalize perform' b d = y at htracks
    cases htracks with
    | ok h =>
      obtain ⟨hresults, hstates⟩ := ih h
      exact ⟨congrArg (Except.ok _ :: ·) hresults, hstates⟩
    | error h =>
      obtain ⟨hresults, hstates⟩ := ih h
      exact ⟨congrArg (Except.error _ :: ·) hresults, hstates⟩

end Runs

namespace Feed

variable {samples rest : List Sample} {f : Feed}

/-! ### Single inquiries -/

/-- The feed is one over these samples that never fails, and these remain of it. -/
structure Shows (samples : List Sample) (f : Feed) (rest : List Sample) : Prop where
  samples_eq : f.samples = samples.toArray
  reliable : f.readFaults = []
  seekFault_eq : f.seekFault = none
  remaining_eq : f.remaining = rest

theorem Shows.advanced {s : Sample} (h : Shows samples f (s :: rest)) :
    Shows samples f.advanced rest :=
  ⟨h.samples_eq, h.reliable, h.seekFault_eq, by
    rw [remaining_advanced, h.remaining_eq, List.tail_cons]⟩

theorem Shows.seek (hinc : Increasing samples) (h : Shows samples f rest) (time : Word) :
    ∃ f', Feed.seek time f = .ok () f' ∧
      Shows samples f' (samples.filter fun s => time ≤ s.time) := by
  obtain ⟨f', hseek, hremaining⟩ := seek_eq hinc h.samples_eq h.seekFault_eq time
  obtain ⟨-, rfl⟩ := seek_ok hseek
  exact ⟨_, hseek, h.samples_eq, h.reliable, h.seekFault_eq, hremaining⟩

/-- An inquiry gives what it gives of the samples that remain. -/
theorem tracks_inquiry (hinc : Increasing samples) (q : Inquiry) (f : Feed) (rest : List Sample)
    (h : Shows samples f rest) :
    Tracks (Shows samples) (q.ofFeed f) (q.ofRemaining samples rest) := by
  cases q with
  | hasNext =>
    have hmore : f.hasNext = !rest.isEmpty := by rw [hasNext_eq, h.remaining_eq]
    show Tracks _ (.ok (Finding.more f.hasNext) f) (.ok (Finding.more (!rest.isEmpty)) rest)
    rw [hmore]
    exact .ok h
  | next =>
    rcases rest with _ | ⟨s, rest⟩
    · have hrun : Inquiry.next.ofFeed f = .error .exhausted { f with reads := f.reads + 1 } := by
        show EStateM.bind Feed.next _ f = _
        rw [EStateM.bind, next_of_nil h.reliable h.remaining_eq]
      rw [hrun]
      exact .error ⟨h.samples_eq, h.reliable, h.seekFault_eq, h.remaining_eq⟩
    · have hrun : Inquiry.next.ofFeed f = .ok (.sample s) f.advanced := by
        show EStateM.bind Feed.next _ f = _
        rw [EStateM.bind, next_of_remaining h.reliable h.remaining_eq]
        rfl
      rw [hrun]
      exact .ok h.advanced
  | seek time =>
    obtain ⟨f', hseek, h'⟩ := h.seek hinc time
    have hrun : (Inquiry.seek time).ofFeed f = .ok .done f' := by
      show EStateM.bind (Feed.seek time) _ f = _
      rw [EStateM.bind, hseek]
      rfl
    rw [hrun]
    exact .ok h'

/-- A read is refused only if nothing remains, and does not move the feed then. -/
theorem Shows.next_error (h : Shows samples f rest) {fault : SourceFault} {f' : Feed}
    (hrun : f.next = .error fault f') :
    fault = .exhausted ∧ rest = [] ∧ f'.position = f.position := by
  rcases rest with _ | ⟨s, rest⟩
  · rw [next_of_nil h.reliable h.remaining_eq] at hrun
    obtain ⟨rfl, rfl⟩ := EStateM.Result.error.inj hrun
    exact ⟨rfl, rfl, rfl⟩
  · rw [next_of_remaining h.reliable h.remaining_eq] at hrun
    cases hrun

/-! ### All inquiries -/

/-- The feed answers these inquiries as the samples do that remain of it, and the samples that are
then left are those that remain.  A read that is refused after them, for want of samples, leaves the
feed at its position. -/
structure Refines (samples : List Sample) (f : Feed) (inquiries : List Inquiry) : Prop where
  findings : (runAll Inquiry.ofFeed inquiries f).1
    = (runAll (Inquiry.ofRemaining samples) inquiries f.remaining).1
  remaining : (runAll Inquiry.ofFeed inquiries f).2.remaining
    = (runAll (Inquiry.ofRemaining samples) inquiries f.remaining).2
  refused {fault : SourceFault} {f' : Feed}
    (h : Feed.next (runAll Inquiry.ofFeed inquiries f).2 = .error fault f') :
    fault = .exhausted ∧ f'.position = (runAll Inquiry.ofFeed inquiries f).2.position

/-- Samples make a feed just if their times strictly increase.  All of them remain of it at first,
and from any position it answers whatever is asked as the samples do that remain of it there. -/
theorem refines_remaining (samples : List Sample) :
    ((∃ f, ordered? samples = .ok f) ↔ Increasing samples) ∧
    ∀ f, ordered? samples = .ok f → f.remaining = samples ∧
      ∀ (position reads : Nat) (inquiries : List Inquiry),
        Refines samples { f with position := position, reads := reads } inquiries := by
  constructor
  · constructor
    · rintro ⟨f, hf⟩
      exact (ordered?_eq_ok_iff.mp hf).1
    · intro hinc
      exact ⟨_, ordered?_eq_ok_iff.mpr ⟨hinc, rfl⟩⟩
  · intro f hf
    obtain ⟨hinc, rfl⟩ := ordered?_eq_ok_iff.mp hf
    refine ⟨remaining_ofSamples samples, fun position reads inquiries => ?_⟩
    have hshows : Shows samples { ofSamples samples with position := position, reads := reads }
        (Feed.remaining { ofSamples samples with position := position, reads := reads }) :=
      ⟨rfl, rfl, rfl, rfl⟩
    obtain ⟨hfindings, hleft⟩ := runAll_of_tracks (tracks_inquiry hinc) inquiries hshows
    refine ⟨hfindings, hleft.remaining_eq, fun hrun => ?_⟩
    obtain ⟨hfault, -, hposition⟩ := hleft.next_error hrun
    exact ⟨hfault, hposition⟩

/-- Jumps forwards and backwards from behind the last sample, and a read that is refused. -/
theorem refines_remaining_of_three :
    ∃ f, ordered? [⟨1000, .whole 1⟩, ⟨2000, .whole 2⟩, ⟨3000, .whole 3⟩] = .ok f ∧
      Refines [⟨1000, .whole 1⟩, ⟨2000, .whole 2⟩, ⟨3000, .whole 3⟩]
        { f with position := 3, reads := 3 }
        [.next, .seek 1500, .next, .seek 1000, .next, .seek 3001, .hasNext] ∧
      (runAll Inquiry.ofFeed [.next, .seek 1500, .next, .seek 1000, .next, .seek 3001, .hasNext]
        { f with position := 3, reads := 3 }).1
          = [.error .exhausted, .ok .done, .ok (.sample ⟨2000, .whole 2⟩), .ok .done,
            .ok (.sample ⟨1000, .whole 1⟩), .ok .done, .ok (.more false)] := by
  obtain ⟨f, hf⟩ := (refines_remaining [⟨1000, .whole 1⟩, ⟨2000, .whole 2⟩, ⟨3000, .whole 3⟩]).1.mpr
    (by decide)
  have hrefines := ((refines_remaining _).2 f hf).2 3 3
    [.next, .seek 1500, .next, .seek 1000, .next, .seek 3001, .hasNext]
  refine ⟨f, hf, hrefines, hrefines.findings.trans ?_⟩
  obtain ⟨-, rfl⟩ := ordered?_eq_ok_iff.mp hf
  rfl

end Feed

end TimeBuckets
