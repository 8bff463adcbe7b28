/-
Running operations.

* `bind_of_ok`, `bind_of_error` — what a sequence of two operations does;
* `after` — the state that an operation leaves, whether it succeeds or fails;
* `Keeps` — a property of states that an operation keeps in both cases, with one rule for each
  way to put operations together.

A failed operation may have changed the state, so that a property of all reachable states has to
be kept by failures too: this is why `Keeps` speaks of `after` and not of results.
-/
import TimeBuckets.Resampler

namespace TimeBuckets

theorem Phase.spent_ne_unread {α : Type} : (spent : Phase α) ≠ unread := nofun

theorem Phase.ready_ne_unread {α : Type} (held : α) : ready held ≠ unread := nofun

theorem Phase.unread_ne_spent {α : Type} : (unread : Phase α) ≠ spent := nofun

theorem Phase.ready_ne_spent {α : Type} (held : α) : ready held ≠ spent := nofun

section Operation

variable {ε σ α β : Type} {run : EStateM ε σ α} {next : α → EStateM ε σ β} {c c' : σ}

theorem bind_of_ok {a : α} (h : run c = .ok a c') : (run >>= next) c = next a c' := by
  show EStateM.bind run next c = _
  rw [EStateM.bind, h]

theorem bind_of_error {e : ε} (h : run c = .error e c') : (run >>= next) c = .error e c' := by
  show EStateM.bind run next c = _
  rw [EStateM.bind, h]

/-- Both operations of a sequence that succeeds have succeeded. -/
theorem of_bind_ok {b : β} (h : (run >>= next) c = .ok b c') :
    ∃ a c₁, run c = .ok a c₁ ∧ next a c₁ = .ok b c' := by
  rcases hrun : run c with ⟨a, c₁⟩ | ⟨e, c₁⟩
  · exact ⟨a, c₁, rfl, (bind_of_ok hrun).symm.trans h⟩
  · exact absurd ((bind_of_error hrun).symm.trans h) nofun

/-- Which value an operation gives can be found by computing, with no need to know the state. -/
theorem of_run' {a : α} (h : run.run' c = some a) : ∃ c', run c = .ok a c' := by
  delta EStateM.run' at h
  split at h
  · rename_i c' hrun
    obtain rfl := Option.some.inj h
    exact ⟨c', hrun⟩
  · cases h

/-- Only the result of the first operation matters to what follows. -/
theorem bind_congr_state (h : run c = run c') : (run >>= next) c = (run >>= next) c' := by
  show EStateM.bind run next c = EStateM.bind run next c'
  rw [EStateM.bind, EStateM.bind, h]

theorem get_bind (next : σ → EStateM ε σ β) (c : σ) : (get >>= next) c = next c c := rfl

theorem modify_bind (f : σ → σ) (next : PUnit → EStateM ε σ β) (c : σ) :
    (modify f >>= next) c = next ⟨⟩ (f c) := rfl

/-- The state that an operation leaves. -/
def after (run : EStateM ε σ α) (c : σ) : σ :=
  match run c with
  | .ok _ c' => c'
  | .error _ c' => c'

theorem after_of_ok {a : α} (h : run c = .ok a c') : after run c = c' := by
  rw [after, h]

theorem after_of_error {e : ε} (h : run c = .error e c') : after run c = c' := by
  rw [after, h]

theorem after_bind_of_ok {a : α} (h : run c = .ok a c') :
    after (run >>= next) c = after (next a) c' := by
  rw [after, bind_of_ok h, after]

theorem after_get_bind (next : σ → EStateM ε σ β) (c : σ) :
    after (get >>= next) c = after (next c) c := rfl

theorem after_modify_bind (f : σ → σ) (next : PUnit → EStateM ε σ β) (c : σ) :
    after (modify f >>= next) c = after (next ⟨⟩) (f c) := rfl

/-- The operation keeps the property, whether it succeeds or fails. -/
def Keeps (P : σ → Prop) (run : EStateM ε σ α) : Prop := ∀ c, P c → P (after run c)

/-- What the first operation brings about and the second keeps, the two of them bring about. -/
theorem after_bind {P : σ → Prop} (hrun : P (after run c)) (hnext : ∀ a, Keeps P (next a)) :
    P (after (run >>= next) c) := by
  -- a failure of the first operation is one of the sequence, with the same state
  rcases h : run c with ⟨a, c'⟩ | ⟨e, c'⟩
  · rw [after_of_ok h] at hrun
    have hlast := hnext a c' hrun
    rw [after] at hlast ⊢
    rwa [bind_of_ok h]
  · rw [after_of_error h] at hrun
    rwa [after_of_error (bind_of_error h)]

namespace Keeps

variable {P : σ → Prop}

theorem pure (a : α) : Keeps P (pure a : EStateM ε σ α) := fun _ h => h

theorem throw (e : ε) : Keeps P (throw e : EStateM ε σ α) := fun _ h => h

theorem set {c₁ : σ} (h : P c₁) : Keeps P (set c₁ : EStateM ε σ PUnit) := fun _ _ => h

theorem modify {f : σ → σ} (h : ∀ c, P c → P (f c)) :
    Keeps P (modify f : EStateM ε σ PUnit) := h

theorem bind (hrun : Keeps P run) (hnext : ∀ a, Keeps P (next a)) : Keeps P (run >>= next) :=
  fun c hc => after_bind (hrun c hc) hnext

/-- What follows a look at the state may use that the state has the property. -/
theorem get_bind {next : σ → EStateM ε σ β} (h : ∀ c, P c → Keeps P (next c)) :
    Keeps P (get >>= next) := fun c hc => h c hc c hc

theorem ite {p : Prop} [Decidable p] {run other : EStateM ε σ α} (hrun : Keeps P run)
    (hother : Keeps P other) : Keeps P (if p then run else other) := by
  by_cases hp : p
  · rwa [if_pos hp]
  · rwa [if_neg hp]

end Keeps

end Operation

/-! ### Results -/

section Returns

variable {ε σ α β : Type} {P : σ → Prop} {Q : α → Prop} {R : β → Prop} {run : EStateM ε σ α}
  {next : α → EStateM ε σ β}

/-- The operation keeps the property of states, and its results have another one. -/
def Returns (P : σ → Prop) (Q : α → Prop) (run : EStateM ε σ α) : Prop :=
  ∀ c, P c → match run c with
    | .ok a c' => P c' ∧ Q a
    | .error _ c' => P c'

namespace Returns

theorem keeps (h : Returns P Q run) : Keeps P run := by
  intro c hc
  have hresult := h c hc
  rcases hrun : run c with ⟨a, c'⟩ | ⟨e, c'⟩
  · rw [hrun] at hresult
    rw [after_of_ok hrun]
    exact hresult.1
  · rw [hrun] at hresult
    rwa [after_of_error hrun]

theorem of_ok (h : Returns P Q run) {c c' : σ} {a : α} (hc : P c) (hrun : run c = .ok a c') :
    Q a := by
  have hresult := h c hc
  rw [hrun] at hresult
  exact hresult.2

theorem pure {a : α} (h : Q a) : Returns P Q (pure a : EStateM ε σ α) := fun _ hc => ⟨hc, h⟩

theorem throw (e : ε) : Returns P Q (throw e : EStateM ε σ α) := fun _ hc => hc

/-- What follows may use what is known of the first result. -/
theorem bind (hrun : Returns P Q run) (hnext : ∀ a, Q a → Returns P R (next a)) :
    Returns P R (run >>= next) := by
  intro c hc
  have hresult := hrun c hc
  rcases h : run c with ⟨a, c'⟩ | ⟨e, c'⟩
  · rw [h] at hresult
    rw [bind_of_ok h]
    exact hnext a hresult.2 c' hresult.1
  · rw [h] at hresult
    rwa [bind_of_error h]

theorem bind_keeps (hrun : Returns P Q run) (hnext : ∀ a, Q a → Keeps P (next a)) :
    Keeps P (run >>= next) := by
  intro c hc
  have hresult := hrun c hc
  rcases h : run c with ⟨a, c'⟩ | ⟨e, c'⟩
  · rw [h] at hresult
    rw [after_bind_of_ok h]
    exact hnext a hresult.2 c' hresult.1
  · rw [h] at hresult
    rwa [after_of_error (bind_of_error h)]

/-- Of the first operation only what it keeps may be known. -/
theorem bind_of_keeps (hrun : Keeps P run) (hnext : ∀ a, Returns P R (next a)) :
    Returns P R (run >>= next) := by
  intro c hc
  have hkept := hrun c hc
  rcases h : run c with ⟨a, c'⟩ | ⟨e, c'⟩
  · rw [after_of_ok h] at hkept
    rw [bind_of_ok h]
    exact hnext a c' hkept
  · rw [after_of_error h] at hkept
    rwa [bind_of_error h]

theorem get_bind {next : σ → EStateM ε σ β} (h : ∀ c, P c → Returns P R (next c)) :
    Returns P R (get >>= next) := fun c hc => h c hc c hc

theorem ite {p : Prop} [Decidable p] {run other : EStateM ε σ α} (hrun : Returns P Q run)
    (hother : Returns P Q other) : Returns P Q (if p then run else other) := by
  by_cases hp : p
  · rwa [if_pos hp]
  · rwa [if_neg hp]

end Returns

end Returns

/-! ### Walks over buckets keep what the cursor keeps -/

section Stream

variable {σ : Type} [ValueStream σ] {P : σ → Prop}

theorem keeps_takeValues (hhas : Keeps P (ValueStream.hasValue (σ := σ)))
    (hnext : Keeps P (ValueStream.nextValue (σ := σ))) (n : Nat) :
    Keeps P (takeValues (σ := σ) n) := by
  induction n with
  | zero => exact Keeps.pure []
  | succ n ih =>
    refine hhas.bind fun more => ?_
    refine Keeps.ite ?_ (Keeps.pure [])
    exact hnext.bind fun value => ih.bind fun rest => Keeps.pure (value :: rest)

theorem keeps_summarize (hhas : Keeps P (ValueStream.hasValue (σ := σ)))
    (hnext : Keeps P (ValueStream.nextValue (σ := σ))) (s : Statistic) :
    Keeps P (summarize (σ := σ) s) := by
  refine Keeps.bind (Keeps.get_bind fun c _ => keeps_takeValues hhas hnext _) fun values => ?_
  rcases s.ofValues? values with _ | value
  · exact Keeps.throw _
  · exact Keeps.pure value

/-- The number is the statistic of numbers with a property. -/
def Statistic.Sums (s : Statistic) (Q : Float → Prop) (value : Float) : Prop :=
  ∃ values, (∀ v ∈ values, Q v) ∧ s.ofValues? values = some value

variable {Q : Float → Prop}

theorem returns_takeValues (hhas : Keeps P (ValueStream.hasValue (σ := σ)))
    (hnext : Returns P Q (ValueStream.nextValue (σ := σ))) (n : Nat) :
    Returns P (fun values => ∀ v ∈ values, Q v) (takeValues (σ := σ) n) := by
  induction n with
  | zero => exact Returns.pure nofun
  | succ n ih =>
    refine Returns.bind_of_keeps hhas fun more => ?_
    refine Returns.ite ?_ (Returns.pure nofun)
    refine hnext.bind fun value hvalue => ih.bind fun rest hrest => Returns.pure fun v hv => ?_
    rcases List.mem_cons.mp hv with rfl | hv
    · exact hvalue
    · exact hrest v hv

theorem returns_summarize (hhas : Keeps P (ValueStream.hasValue (σ := σ)))
    (hnext : Returns P Q (ValueStream.nextValue (σ := σ))) (s : Statistic) :
    Returns P (s.Sums Q) (summarize (σ := σ) s) := by
  refine Returns.bind (Returns.get_bind fun c _ => returns_takeValues hhas hnext _)
    fun values hvalues => ?_
  rcases hsum : s.ofValues? values with _ | value
  · exact Returns.throw _
  · exact Returns.pure ⟨values, hvalues, hsum⟩

end Stream

section Buckets

variable {σ : Type} [BucketCursor σ] {P : σ → Prop}

theorem keeps_readBucketTime : Keeps P (readBucketTime (σ := σ)) := by
  intro c hc
  rcases h : BucketCursor.bucketTime c with fault | time
  · have hread : readBucketTime c = .error fault c := by rw [readBucketTime, h]
    rwa [after_of_error hread]
  · have hread : readBucketTime c = .ok time c := by rw [readBucketTime, h]
    rwa [after_of_ok hread]

theorem keeps_takeBucket (hhas : Keeps P (ValueStream.hasValue (σ := σ)))
    (hnext : Keeps P (ValueStream.nextValue (σ := σ)))
    (hopen : Keeps P (BucketCursor.openNext (σ := σ))) (s : Statistic) :
    Keeps P (takeBucket (σ := σ) s) :=
  (keeps_summarize hhas hnext s).bind fun _ =>
    keeps_readBucketTime.bind fun _ => hopen.bind fun _ => Keeps.pure _

theorem returns_takeBucket {Q : Float → Prop} (hhas : Keeps P (ValueStream.hasValue (σ := σ)))
    (hnext : Returns P Q (ValueStream.nextValue (σ := σ)))
    (hopen : Keeps P (BucketCursor.openNext (σ := σ))) (s : Statistic) :
    Returns P (fun point => s.Sums Q point.value) (takeBucket (σ := σ) s) := by
  refine (returns_summarize hhas hnext s).bind fun value hvalue => ?_
  exact Returns.bind_of_keeps keeps_readBucketTime fun _ =>
    Returns.bind_of_keeps hopen fun _ => Returns.pure hvalue

end Buckets

/-! ### Requests to a resampler -/

/-- What can be asked of a resampler. -/
inductive Request
  | hasNext
  | nextPoint
  | next?
  | seek (time : Word)

namespace Resampler

variable {σ : Type}

theorem onCursor_of_ok {α : Type} {run : EStateM Fault σ α} {r : Resampler σ} {a : α} {c : σ}
    (h : run r.cursor = .ok a c) : onCursor run r = .ok a { r with cursor := c } := by
  rw [onCursor, h]

theorem onCursor_of_error {α : Type} {run : EStateM Fault σ α} {r : Resampler σ} {fault : Fault}
    {c : σ} (h : run r.cursor = .error fault c) :
    onCursor run r = .error fault { r with cursor := c } := by
  rw [onCursor, h]

/-- An operation of the cursor changes nothing but the cursor. -/
theorem keeps_onCursor {α : Type} {P : σ → Prop} {run : EStateM Fault σ α} (h : Keeps P run)
    (s : Statistic) :
    Keeps (fun r : Resampler σ => P r.cursor ∧ r.statistic = s) (onCursor run) := by
  rintro r ⟨hr, hs⟩
  have hc := h r.cursor hr
  rcases hrun : run r.cursor with ⟨a, c⟩ | ⟨fault, c⟩
  · rw [after_of_ok hrun] at hc
    rw [after_of_ok (onCursor_of_ok hrun)]
    exact ⟨hc, hs⟩
  · rw [after_of_error hrun] at hc
    rw [after_of_error (onCursor_of_error hrun)]
    exact ⟨hc, hs⟩

theorem returns_onCursor {α : Type} {P : σ → Prop} {Q : α → Prop} {run : EStateM Fault σ α}
    (h : Returns P Q run) (s : Statistic) :
    Returns (fun r : Resampler σ => P r.cursor ∧ r.statistic = s) Q (onCursor run) := by
  rintro r ⟨hr, hs⟩
  have hc := h r.cursor hr
  rcases hrun : run r.cursor with ⟨a, c⟩ | ⟨fault, c⟩
  · rw [hrun] at hc
    rw [onCursor_of_ok hrun]
    exact ⟨⟨hc.1, hs⟩, hc.2⟩
  · rw [hrun] at hc
    rw [onCursor_of_error hrun]
    exact ⟨hc, hs⟩

variable [BucketCursor σ]

/-- Points are statistics of what the cursor gives. -/
theorem returns_nextPoint {P : σ → Prop} {Q : Float → Prop}
    (hhas : Keeps P (ValueStream.hasValue (σ := σ)))
    (hnext : Returns P Q (ValueStream.nextValue (σ := σ)))
    (hopen : Keeps P (BucketCursor.openNext (σ := σ))) (s : Statistic) :
    Returns (fun r : Resampler σ => P r.cursor ∧ r.statistic = s)
      (fun point => s.Sums Q point.value) nextPoint := by
  refine Returns.bind_of_keeps (keeps_onCursor hhas s) fun _ => ?_
  refine Returns.ite (Returns.get_bind fun r hr => ?_) (Returns.get_bind fun r _ => Returns.throw _)
  rw [hr.2]
  refine (returns_onCursor (returns_takeBucket hhas hnext hopen s) s).bind fun point hpoint => ?_
  refine Returns.bind_of_keeps (Keeps.modify ?_) fun _ => Returns.pure hpoint
  exact fun r h => h

/-- The resampler that a request leaves behind. -/
def handle (r : Resampler σ) : Request → Resampler σ
  | .hasNext => after hasNext r
  | .nextPoint => after nextPoint r
  | .next? => after next? r
  | .seek time => after (seek time) r

/-- The resampler that requests leave behind, one after the other, whatever their results. -/
def handleAll (r : Resampler σ) (requests : List Request) : Resampler σ :=
  requests.foldl handle r

/-- What all operations of the cursor keep, all requests keep, and none changes the statistic. -/
theorem keeps_handleAll {P : σ → Prop} (hhas : Keeps P (ValueStream.hasValue (σ := σ)))
    (hnext : Keeps P (ValueStream.nextValue (σ := σ)))
    (hopen : Keeps P (BucketCursor.openNext (σ := σ)))
    (hseek : ∀ time, Keeps P (BucketCursor.seek (σ := σ) time))
    {r : Resampler σ} (hr : P r.cursor) (requests : List Request) :
    P (r.handleAll requests).cursor ∧ (r.handleAll requests).statistic = r.statistic := by
  have hasNext_keeps := keeps_onCursor hhas r.statistic
  have nextPoint_keeps :
      Keeps (fun r' : Resampler σ => P r'.cursor ∧ r'.statistic = r.statistic) nextPoint := by
    refine hasNext_keeps.bind fun more => Keeps.ite ?_ ?_
    -- taking a bucket and noting its point, or failing because there is none
    · refine Keeps.get_bind fun r' _ => ?_
      refine (keeps_onCursor (keeps_takeBucket hhas hnext hopen _) _).bind fun point => ?_
      refine Keeps.bind (Keeps.modify ?_) fun _ => Keeps.pure point
      exact fun r h => h
    · exact Keeps.get_bind fun r' _ => Keeps.throw _
  have next?_keeps :
      Keeps (fun r' : Resampler σ => P r'.cursor ∧ r'.statistic = r.statistic) next? := by
    refine hasNext_keeps.bind fun more => Keeps.ite ?_ (Keeps.pure none)
    exact nextPoint_keeps.bind fun point => Keeps.pure (some point)
  have hall : ∀ r' : Resampler σ, P r'.cursor ∧ r'.statistic = r.statistic →
      P (r'.handleAll requests).cursor ∧ (r'.handleAll requests).statistic = r.statistic := by
    -- on the requests, for all resamplers that may have been reached
    induction requests with
    | nil => exact fun r' h => h
    | cons request rest ih =>
      intro r' h
      rw [handleAll, List.foldl_cons]
      refine ih _ ?_
      cases request with
      | hasNext => exact hasNext_keeps r' h
      | nextPoint => exact nextPoint_keeps r' h
      | next? => exact next?_keeps r' h
      | seek time => exact keeps_onCursor (hseek time) _ r' h
  exact hall r ⟨hr, rfl⟩

end Resampler

end TimeBuckets
