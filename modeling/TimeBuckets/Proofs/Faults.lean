/-
Faults of operations.

* `FaultsIn` — all faults of an operation have a property, with one rule for each way to put
  operations together;
* `WithinRange` — a lookup fails only because a time is out of range;
* `CalendarCursor.withinRange_unitAround`, `CalendarCursor.withinRange_unitFrom` — units are looked
  up so;
* `Grid.faultsIn_hasValue`, `CalendarCursor.faultsIn_hasValue` — looking ahead fails only because a
  sample cannot be read or a time is out of range, or as the cursor below fails.
-/
import TimeBuckets.Proofs.Alignment
import TimeBuckets.Proofs.Operation

namespace TimeBuckets

/-! ### Operations -/

section FaultsIn

variable {σ α β : Type} {Q : Fault → Prop}

/-- All faults of the operation have the property. -/
def FaultsIn (Q : Fault → Prop) (run : EStateM Fault σ α) : Prop :=
  ∀ c fault c', run c = .error fault c' → Q fault

namespace FaultsIn

variable {run : EStateM Fault σ α} {next : α → EStateM Fault σ β}

theorem pure (a : α) : FaultsIn Q (pure a : EStateM Fault σ α) := fun _ _ _ h => nomatch h

theorem throw {fault : Fault} (h : Q fault) : FaultsIn Q (throw fault : EStateM Fault σ α) := by
  intro c fault' c' hrun
  obtain ⟨rfl, -⟩ := EStateM.Result.error.inj hrun
  exact h

theorem set (c : σ) : FaultsIn Q (set c : EStateM Fault σ PUnit) := fun _ _ _ h => nomatch h

theorem modify (f : σ → σ) : FaultsIn Q (modify f : EStateM Fault σ PUnit) :=
  fun _ _ _ h => nomatch h

theorem bind (hrun : FaultsIn Q run) (hnext : ∀ a, FaultsIn Q (next a)) :
    FaultsIn Q (run >>= next) := by
  intro c fault c' h
  rcases hfirst : run c with ⟨a, c₁⟩ | ⟨cause, c₁⟩
  · rw [bind_of_ok hfirst] at h
    exact hnext a c₁ fault c' h
  · rw [bind_of_error hfirst] at h
    obtain ⟨rfl, -⟩ := EStateM.Result.error.inj h
    exact hrun c cause c₁ hfirst

theorem get_bind {next : σ → EStateM Fault σ β} (h : ∀ c, FaultsIn Q (next c)) :
    FaultsIn Q (get >>= next) := fun c => h c c

theorem ite {p : Prop} [Decidable p] {other : EStateM Fault σ α} (hrun : FaultsIn Q run)
    (hother : FaultsIn Q other) : FaultsIn Q (if p then run else other) := by
  by_cases hp : p
  · rwa [if_pos hp]
  · rwa [if_neg hp]

end FaultsIn

end FaultsIn

/-! ### Lookups -/

/-- A lookup fails only because a time is out of range. -/
def WithinRange {α : Type} (time : Word) (lookup : Except Fault α) : Prop :=
  ∀ fault, lookup = .error fault → fault = .outOfRange time

theorem WithinRange.ok {α : Type} {time : Word} (a : α) : WithinRange time (.ok a) :=
  fun _ h => absurd h nofun

theorem WithinRange.bind {α β : Type} {time : Word} {lookup : Except Fault α}
    {next : α → Except Fault β} (hlookup : WithinRange time lookup)
    (hnext : ∀ a, WithinRange time (next a)) : WithinRange time (lookup >>= next) := by
  intro fault h
  rcases lookup with cause | a
  · obtain rfl := Except.error.inj h
    exact hlookup cause rfl
  · exact hnext a fault h

theorem WithinRange.orOutOfRange {α : Type} (time : Word) (found : Option α) :
    WithinRange time (CalendarCursor.orOutOfRange time found) := by
  intro fault h
  rcases found with _ | a
  · exact (Except.error.inj h).symm
  · cases h

namespace CalendarCursor

variable {σ : Type}

theorem withinRange_unitStart (c : CalendarCursor σ) (time : Word) :
    WithinRange time (c.unitStart time) :=
  (WithinRange.orOutOfRange time _).bind fun _ => WithinRange.ok _

theorem withinRange_unitAround (c : CalendarCursor σ) (time : Word) :
    WithinRange time (c.unitAround time) :=
  (withinRange_unitStart c time).bind fun _ => (WithinRange.orOutOfRange time _).bind fun _ =>
    (WithinRange.orOutOfRange time _).bind fun _ => WithinRange.ok _

theorem withinRange_unitFrom (c : CalendarCursor σ) (time : Word) :
    WithinRange time (c.unitFrom time) := by
  refine (withinRange_unitStart c time).bind fun start =>
    (WithinRange.orOutOfRange time _).bind fun midnight => ?_
  by_cases hmidnight : midnight = time
  · rw [if_pos hmidnight]
    exact WithinRange.ok time
  · rw [if_neg hmidnight]
    exact (WithinRange.orOutOfRange time _).bind fun _ => WithinRange.orOutOfRange time _

theorem withinRange_bucketTime [BucketCursor σ] {c : CalendarCursor σ} {last : Word}
    (hphase : c.phase = .ready last) : WithinRange last c.bucketTime := by
  rw [bucketTime, hphase]
  exact (withinRange_unitStart c last).bind fun _ => (WithinRange.orOutOfRange last _).bind fun _ =>
    WithinRange.orOutOfRange last _

end CalendarCursor

/-! ### Looking ahead -/

namespace Grid

variable {Q : Fault → Prop}

theorem faultsIn_read (hsource : ∀ cause, Q (.source cause)) : FaultsIn Q read := by
  intro g fault g' h
  rw [read] at h
  rcases hnext : g.feed.next with ⟨s, feed⟩ | ⟨cause, feed⟩
  · rw [hnext] at h
    cases h
  · rw [hnext] at h
    obtain ⟨rfl, -⟩ := EStateM.Result.error.inj h
    exact hsource cause

theorem faultsIn_pull (hsource : ∀ cause, Q (.source cause)) : FaultsIn Q pull :=
  FaultsIn.get_bind fun _ =>
    FaultsIn.ite ((faultsIn_read hsource).bind fun _ => FaultsIn.modify _) (FaultsIn.modify _)

theorem faultsIn_openBucket (hrange : ∀ time, Q (.outOfRange time)) : FaultsIn Q openBucket := by
  intro g fault g' h
  rw [openBucket] at h
  rcases hphase : g.phase with _ | s | _
  · rw [hphase] at h
    cases h
  · rcases hend : g.bucketEnd s.time with cause | last
    · simp only [hphase, hend] at h
      obtain ⟨rfl, -⟩ := EStateM.Result.error.inj h
      rw [bucketEnd_error hend]
      exact hrange s.time
    · simp only [hphase, hend] at h
      cases h
  · rw [hphase] at h
    cases h

section Ahead

variable (hsource : ∀ cause, Q (.source cause)) (hrange : ∀ time, Q (.outOfRange time))

include hsource hrange

theorem faultsIn_fill : FaultsIn Q fill := by
  refine FaultsIn.get_bind fun g => ?_
  rcases g.phase with _ | s | _
  · exact (faultsIn_pull hsource).bind fun _ => faultsIn_openBucket hrange
  · exact FaultsIn.pure ()
  · exact FaultsIn.pure ()

theorem faultsIn_hasValue : FaultsIn Q hasValue :=
  (faultsIn_fill hsource hrange).bind fun _ => FaultsIn.get_bind fun _ => FaultsIn.pure _

theorem faultsIn_openNext : FaultsIn Q openNext :=
  (faultsIn_fill hsource hrange).bind fun _ => faultsIn_openBucket hrange

end Ahead

end Grid

namespace CalendarCursor

variable {σ : Type} {Q : Fault → Prop}

theorem faultsIn_below {α : Type} {run : EStateM Fault σ α} (h : FaultsIn Q run) :
    FaultsIn Q (below run) := by
  intro c fault c' hrun
  rw [below] at hrun
  rcases hinner : run c.inner with ⟨a, inner⟩ | ⟨cause, inner⟩
  · rw [hinner] at hrun
    cases hrun
  · rw [hinner] at hrun
    obtain ⟨rfl, -⟩ := EStateM.Result.error.inj hrun
    exact h c.inner cause inner hinner

section Ahead

variable [BucketCursor σ] (hrange : ∀ time, Q (.outOfRange time))
  (hhas : FaultsIn Q (ValueStream.hasValue (σ := σ)))
  (hopen : FaultsIn Q (BucketCursor.openNext (σ := σ)))

include hrange hhas hopen

theorem faultsIn_openUnit : FaultsIn Q (openUnit (σ := σ)) := by
  refine (faultsIn_below hopen).bind fun _ => (faultsIn_below hhas).bind fun more => ?_
  refine FaultsIn.get_bind fun c => ?_
  rcases (if more then BucketCursor.pendingTime c.inner else none) with _ | time
  · exact FaultsIn.set _
  · rcases haround : c.unitAround time with fault | ⟨start, last⟩
    · simp only [haround]
      refine FaultsIn.throw ?_
      rw [withinRange_unitAround c time fault haround]
      exact hrange time
    · simp only [haround]
      exact FaultsIn.set _

theorem faultsIn_fill : FaultsIn Q (fill (σ := σ)) := by
  refine FaultsIn.get_bind fun c => ?_
  rcases c.phase with _ | last | _
  · exact faultsIn_openUnit hrange hhas hopen
  · exact FaultsIn.pure ()
  · exact FaultsIn.pure ()

theorem faultsIn_hasValue : FaultsIn Q (hasValue (σ := σ)) := by
  refine (faultsIn_fill hrange hhas hopen).bind fun _ => FaultsIn.get_bind fun c => ?_
  rcases c.phase with _ | last | _
  · exact FaultsIn.pure false
  · refine (faultsIn_below hhas).bind fun more => FaultsIn.ite ?_ (FaultsIn.pure false)
    exact FaultsIn.get_bind fun c => FaultsIn.pure _
  · exact FaultsIn.pure false

theorem faultsIn_openNext : FaultsIn Q (openNext (σ := σ)) := by
  refine FaultsIn.get_bind fun c => ?_
  rcases c.phase with _ | last | _
  · exact faultsIn_openUnit hrange hhas hopen
  · exact faultsIn_openUnit hrange hhas hopen
  · exact FaultsIn.pure ()

end Ahead

end CalendarCursor

end TimeBuckets
