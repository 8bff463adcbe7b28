/-
Two cursors that behave alike.

* `Agrees` — two results with the same answer and related states, or with the same fault up to the
  texts in it;
* `Respects` — an operation that takes related states to agreeing results, with one rule for each
  way to put operations together;
* `Alike` — a relation that all operations of a cursor respect;
* `Begins` — another relation that leads to it with the first reading ahead, or to the end;
* `Resampler.untilFault_answers` — resamplers over cursors that are related in one of the two ways
  give the same answers up to the first fault.

Nothing is said of the states that faults leave, which is why answers are compared up to the first
fault only.
-/
import TimeBuckets.Proofs.Operation

namespace TimeBuckets

/-- The fault without the text of the cursor or the resampler that it was met in. -/
def Fault.bare : Fault → Fault
  | noValue _ => noValue ""
  | noBucket _ => noBucket ""
  | disorder previous next _ => disorder previous next ""
  | fault => fault

namespace Fault

/-! Texts do not count. -/

theorem bare_noValue (text other : String) : (noValue text).bare = (noValue other).bare := rfl

theorem bare_noBucket (text other : String) : (noBucket text).bare = (noBucket other).bare := rfl

theorem bare_disorder (previous next : Word) (text other : String) :
    (disorder previous next text).bare = (disorder previous next other).bare := rfl

end Fault

section Agreement

variable {σ α β : Type} {R S : α → σ → σ → Prop} {T : β → σ → σ → Prop} {E : σ → σ → Prop}
  {c d : σ}

/-- Two results with the same answer and related states, or with the same fault up to texts. -/
inductive Agrees (R : α → σ → σ → Prop) :
    EStateM.Result Fault σ α → EStateM.Result Fault σ α → Prop
  | ok {a : α} {c d : σ} (h : R a c d) : Agrees R (.ok a c) (.ok a d)
  | error {f g : Fault} {c d : σ} (h : f.bare = g.bare) : Agrees R (.error f c) (.error g d)

theorem Agrees.imp {x y : EStateM.Result Fault σ α} (h : Agrees R x y)
    (himp : ∀ a c d, R a c d → S a c d) : Agrees S x y := by
  cases h with
  | ok h => exact .ok (himp _ _ _ h)
  | error h => exact .error h

/-- More may be known of the first result by itself. -/
theorem Agrees.with_left {run run' : EStateM Fault σ α} {P : α → σ → Prop}
    (h : Agrees R (run c) (run' d)) (hrun : ∀ a c', run c = .ok a c' → P a c') :
    Agrees (fun a c' d' => R a c' d' ∧ P a c') (run c) (run' d) := by
  generalize hx : run c = x at h
  generalize run' d = y at h
  cases h with
  | ok h => exact .ok ⟨h, hrun _ _ hx⟩
  | error h => exact .error h

theorem Agrees.bind {run run' : EStateM Fault σ α} {next next' : α → EStateM Fault σ β}
    (hrun : Agrees R (run c) (run' d))
    (hnext : ∀ a c' d', R a c' d' → Agrees T (next a c') (next' a d')) :
    Agrees T ((run >>= next) c) ((run' >>= next') d) := by
  generalize hx : run c = x at hrun
  generalize hy : run' d = y at hrun
  cases hrun with
  | ok h =>
    rw [bind_of_ok hx, bind_of_ok hy]
    exact hnext _ _ _ h
  | error h =>
    rw [bind_of_error hx, bind_of_error hy]
    exact .error h

/-- The operation takes related states to agreeing results with related states. -/
def Respects (E : σ → σ → Prop) (run : EStateM Fault σ α) : Prop :=
  ∀ c d, E c d → Agrees (fun _ => E) (run c) (run d)

namespace Respects

theorem pure (a : α) : Respects E (pure a : EStateM Fault σ α) := fun _ _ h => .ok h

theorem throw (f : Fault) : Respects E (throw f : EStateM Fault σ α) := fun _ _ _ => .error rfl

theorem modify {f : σ → σ} (h : ∀ c d, E c d → E (f c) (f d)) :
    Respects E (modify f : EStateM Fault σ PUnit) := fun c d hcd => .ok (h c d hcd)

theorem bind {run : EStateM Fault σ α} {next : α → EStateM Fault σ β} (hrun : Respects E run)
    (hnext : ∀ a, Respects E (next a)) : Respects E (run >>= next) :=
  fun c d h => (hrun c d h).bind fun a c' d' h' => hnext a c' d' h'

/-- What follows a look at the state may differ between the two states. -/
theorem get_bind {next : σ → EStateM Fault σ β}
    (h : ∀ c d, E c d → Agrees (fun _ => E) (next c c) (next d d)) :
    Respects E (get >>= next) := fun c d hcd => h c d hcd

theorem ite {p : Prop} [Decidable p] {run other : EStateM Fault σ α} (hrun : Respects E run)
    (hother : Respects E other) : Respects E (if p then run else other) := by
  by_cases hp : p
  · rwa [if_pos hp]
  · rwa [if_neg hp]

end Respects

end Agreement

/-! ### Walks over buckets -/

section Stream

variable {σ : Type} [ValueStream σ] {E U : σ → σ → Prop} {c d : σ}

theorem respects_takeValues (hhas : Respects E (ValueStream.hasValue (σ := σ)))
    (hnext : Respects E (ValueStream.nextValue (σ := σ))) (n : Nat) :
    Respects E (takeValues (σ := σ) n) := by
  induction n with
  | zero => exact Respects.pure []
  | succ n ih =>
    refine hhas.bind fun more => Respects.ite ?_ (Respects.pure [])
    exact hnext.bind fun value => ih.bind fun rest => Respects.pure (value :: rest)

theorem respects_summarize (hhas : Respects E (ValueStream.hasValue (σ := σ)))
    (hnext : Respects E (ValueStream.nextValue (σ := σ)))
    (hpending : ∀ c d, E c d → ValueStream.pending c = ValueStream.pending d) (s : Statistic) :
    Respects E (summarize (σ := σ) s) := by
  have hvalues : Respects E (bucketValues (σ := σ)) := Respects.get_bind fun c d h => by
    rw [hpending c d h]
    exact respects_takeValues hhas hnext _ c d h
  refine hvalues.bind fun values => ?_
  rcases s.ofValues? values with _ | value
  · exact Respects.throw _
  · exact Respects.pure value

/-- The stream has no value and asking changes nothing. -/
def Ended (c : σ) : Prop := ValueStream.hasValue c = .ok false c

/-- The first reading ahead takes states that are related in the second way to states that are
related in the first way, or ends both streams. -/
def Begins (E U : σ → σ → Prop) : Prop :=
  ∀ c d, U c d → Agrees (fun more c' d' => E c' d' ∨ more = false ∧ Ended c' ∧ Ended d')
    (ValueStream.hasValue c) (ValueStream.hasValue d)

/-- The two streams are alike, or about to begin alike, or both at their end. -/
def Same (E U : σ → σ → Prop) (c d : σ) : Prop := E c d ∨ U c d ∨ Ended c ∧ Ended d

theorem Same.hasValue (h : Same E U c d) (hhas : Respects E (ValueStream.hasValue (σ := σ)))
    (hbegins : Begins E U) :
    Agrees (fun more c' d' => Same E U c' d' ∧ (more = true → E c' d')) (ValueStream.hasValue c)
      (ValueStream.hasValue d) := by
  rcases h with h | h | ⟨hc, hd⟩
  · exact (hhas c d h).imp fun more c' d' h' => ⟨Or.inl h', fun _ => h'⟩
  · refine (hbegins c d h).imp fun more c' d' h' => ?_
    rcases h' with h' | ⟨rfl, hended⟩
    · exact ⟨Or.inl h', fun _ => h'⟩
    · exact ⟨Or.inr (Or.inr hended), nofun⟩
  · rw [hc, hd]
    exact .ok ⟨Or.inr (Or.inr ⟨hc, hd⟩), nofun⟩

end Stream

section Buckets

variable {σ : Type} [BucketCursor σ] {E U : σ → σ → Prop}

/-- All operations respect the relation, and nothing that is read off tells related states apart. -/
structure Alike (E : σ → σ → Prop) : Prop where
  hasValue : Respects E (ValueStream.hasValue (σ := σ))
  nextValue : Respects E (ValueStream.nextValue (σ := σ))
  openNext : Respects E (BucketCursor.openNext (σ := σ))
  bucketTime : Respects E (readBucketTime (σ := σ))
  pending (c d : σ) : E c d → ValueStream.pending c = ValueStream.pending d
  pendingTime (c d : σ) : E c d → BucketCursor.pendingTime c = BucketCursor.pendingTime d
  setWidth (width : Word) (c d : σ) :
    E c d → E (BucketCursor.setWidth width c) (BucketCursor.setWidth width d)
  setEnd (last : Word) (c d : σ) :
    E c d → E (BucketCursor.setEnd last c) (BucketCursor.setEnd last d)

theorem Alike.takeBucket (h : Alike E) (s : Statistic) : Respects E (takeBucket (σ := σ) s) :=
  (respects_summarize h.hasValue h.nextValue h.pending s).bind fun _ =>
    h.bucketTime.bind fun _ => h.openNext.bind fun _ => Respects.pure _

/-- The time of a bucket is the same if reading it gives the same. -/
theorem respects_readBucketTime
    (h : ∀ c d, E c d → (BucketCursor.bucketTime c).mapError Fault.bare
      = (BucketCursor.bucketTime d).mapError Fault.bare) :
    Respects E (readBucketTime (σ := σ)) := by
  intro c d hcd
  have hsame := h c d hcd
  rcases hc : BucketCursor.bucketTime c with f | t
  · rcases hd : BucketCursor.bucketTime d with g | u
    · rw [hc, hd] at hsame
      rw [readBucketTime, readBucketTime, hc, hd]
      exact .error (Except.error.inj hsame)
    · rw [hc, hd] at hsame
      cases hsame
  · rcases hd : BucketCursor.bucketTime d with g | u
    · rw [hc, hd] at hsame
      cases hsame
    · rw [hc, hd] at hsame
      rw [readBucketTime, readBucketTime, hc, hd, Except.ok.inj hsame]
      exact .ok hcd

end Buckets

/-! ### Answers of resamplers -/

/-- What a request to a resampler can give. -/
inductive Answer
  | more (answer : Bool)
  | point (point : Option Point)
  | moved

/-- The answers up to the first fault, with that fault. -/
def untilFault : List (Except Fault Answer) → List (Except Fault Answer)
  | [] => []
  | .ok answer :: rest => .ok answer :: untilFault rest
  | .error fault :: _ => [.error fault]

/-- The points among answers. -/
def Answer.points (answers : List (Except Fault Answer)) : List Point :=
  answers.filterMap fun
    | .ok (.point p) => p
    | _ => none

theorem Answer.mem_points {answers : List (Except Fault Answer)} {p : Point} :
    p ∈ points answers ↔ .ok (.point (some p)) ∈ answers := by
  rw [points, List.mem_filterMap]
  constructor
  · rintro ⟨fault | more | p' | -, hmem, hp⟩
    · exact absurd hp nofun
    · exact absurd hp nofun
    · obtain rfl : p' = some p := hp
      exact hmem
    · exact absurd hp nofun
  · exact fun hmem => ⟨_, hmem, rfl⟩

/-- What a result says, in terms of answers. -/
def answerOf {τ α : Type} (form : α → Answer) : EStateM.Result Fault τ α → Except Fault Answer
  | .ok a _ => .ok (form a)
  | .error fault _ => .error fault

namespace Resampler

variable {σ : Type} [BucketCursor σ] {E U : σ → σ → Prop} {r q : Resampler σ}

/-- The answer to a request. -/
def answer (r : Resampler σ) : Request → Except Fault Answer
  | .hasNext => answerOf .more (r.hasNext)
  | .nextPoint => answerOf (fun point => .point (some point)) r.nextPoint
  | .next? => answerOf .point r.next?
  | .seek time => answerOf (fun _ => .moved) (Resampler.seek time r)

/-- The answers to requests, one after the other. -/
def answers (r : Resampler σ) : List Request → List (Except Fault Answer)
  | [] => []
  | request :: rest => r.answer request :: (r.handle request).answers rest

/-- The resamplers take the same statistic over cursors that give the same. -/
def Same (E U : σ → σ → Prop) (r q : Resampler σ) : Prop :=
  TimeBuckets.Same E U r.cursor q.cursor ∧ r.statistic = q.statistic

omit [BucketCursor σ] in
theorem agrees_onCursor {α : Type} {R : α → σ → σ → Prop} {run : EStateM Fault σ α}
    (h : Agrees R (run r.cursor) (run q.cursor)) (hs : r.statistic = q.statistic) :
    Agrees (fun a r' q' => R a r'.cursor q'.cursor ∧ r'.statistic = q'.statistic)
      (onCursor run r) (onCursor run q) := by
  generalize hx : run r.cursor = x at h
  generalize hy : run q.cursor = y at h
  cases h with
  | ok h =>
    rw [onCursor_of_ok hx, onCursor_of_ok hy]
    exact .ok ⟨h, hs⟩
  | error h =>
    rw [onCursor_of_error hx, onCursor_of_error hy]
    exact .error h

section Same

variable (halike : Alike E) (hbegins : Begins E U)

include halike hbegins

theorem agrees_hasNext (h : Same E U r q) :
    Agrees (fun more r' q' => Same E U r' q' ∧ (more = true → E r'.cursor q'.cursor)) r.hasNext
      q.hasNext :=
  (agrees_onCursor (h.1.hasValue halike.hasValue hbegins) h.2).imp
    fun _ _ _ h' => ⟨⟨h'.1.1, h'.2⟩, h'.1.2⟩

theorem respects_hasNext : Respects (Same E U) (hasNext (σ := σ)) :=
  fun _ _ h => (agrees_hasNext halike hbegins h).imp fun _ _ _ h' => h'.1

theorem respects_nextPoint : Respects (Same E U) (nextPoint (σ := σ)) := by
  refine fun r q h => (agrees_hasNext halike hbegins h).bind fun more r' q' h' => ?_
  obtain ⟨⟨hsame, hs⟩, halikes⟩ := h'
  rcases more with _ | _
  -- the two have no point left, and say so with their own texts
  · exact .error (Fault.bare_noBucket _ _)
  · have htake : Agrees (fun _ r' q' => E r'.cursor q'.cursor ∧ r'.statistic = q'.statistic)
        (onCursor (takeBucket r'.statistic) r') (onCursor (takeBucket q'.statistic) q') := by
      rw [← hs]
      exact agrees_onCursor (halike.takeBucket r'.statistic _ _ (halikes rfl)) hs
    exact htake.bind fun point r'' q'' h'' => .ok ⟨Or.inl h''.1, h''.2⟩

theorem respects_next? : Respects (Same E U) (next? (σ := σ)) := by
  refine (respects_hasNext halike hbegins).bind fun more => Respects.ite ?_ (Respects.pure none)
  exact (respects_nextPoint halike hbegins).bind fun point => Respects.pure (some point)

omit halike hbegins in
/-- Agreeing results give the same answer, and then states that are related again. -/
theorem answerOf_eq {α : Type} {run : EStateM Fault (Resampler σ) α} {form : α → Answer}
    (hrun : Respects (Same E U) run) (h : Same E U r q) :
    (∃ a, answerOf form (run r) = .ok a ∧ answerOf form (run q) = .ok a ∧
      Same E U (after run r) (after run q)) ∨
    ∃ f g, answerOf form (run r) = .error f ∧ answerOf form (run q) = .error g ∧
      f.bare = g.bare := by
  have hagrees := hrun r q h
  generalize hx : run r = x at hagrees
  generalize hy : run q = y at hagrees
  cases hagrees with
  | ok h' =>
    rw [after_of_ok hx, after_of_ok hy]
    exact Or.inl ⟨_, rfl, rfl, h'⟩
  | error h' => exact Or.inr ⟨_, _, rfl, rfl, h'⟩

/-- Asked the same, the two resamplers answer the same up to the first fault. -/
theorem untilFault_answers (h : Same E U r q) {requests : List Request}
    (hrequests : ∀ time, .seek time ∉ requests) :
    (untilFault (r.answers requests)).map (Except.mapError Fault.bare)
      = (untilFault (q.answers requests)).map (Except.mapError Fault.bare) := by
  induction requests generalizing r q with
  | nil => rfl
  | cons request rest ih =>
    have hstep : (∃ a, r.answer request = .ok a ∧ q.answer request = .ok a ∧
          Same E U (r.handle request) (q.handle request)) ∨
        ∃ f g, r.answer request = .error f ∧ q.answer request = .error g ∧ f.bare = g.bare := by
      cases request with
      | hasNext => exact answerOf_eq (respects_hasNext halike hbegins) h
      | nextPoint => exact answerOf_eq (respects_nextPoint halike hbegins) h
      | next? => exact answerOf_eq (respects_next? halike hbegins) h
      | seek time => exact absurd List.mem_cons_self (hrequests time)
    rcases hstep with ⟨a, hr, hq, hsame⟩ | ⟨f, g, hr, hq, hbare⟩
    · rw [answers, answers, hr, hq, untilFault, untilFault, List.map_cons, List.map_cons,
        ih hsame fun time hmem => hrequests time (List.mem_cons_of_mem _ hmem)]
    · rw [answers, answers, hr, hq, untilFault, untilFault, List.map_singleton, List.map_singleton]
      exact congrArg (fun fault => [Except.error fault]) hbare

end Same

end Resampler

end TimeBuckets
