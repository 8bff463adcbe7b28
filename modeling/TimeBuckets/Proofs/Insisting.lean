/-
Calls that are repeated for as long as reads fail.

* `Call.perform`, `performAll` — calls as operations with replies of one type, one after the other;
* `Insisted` — calls each of which is made again whenever the last read of it was set to fail;
* `Matches`, `Follows`, `Resumes` — an operation above a feed that may fail next to the same
  operation above one that never does: it gives the same, or fails and can be made again;
* `exists_insisted`, `Insisted.eq_performAll` — insisting comes to an end and gives what the calls
  give without any failure, if every call resumes;
* `Recovers`, `Resuming.recovers` — the same about all calls that do not jump;
* `Feed.Twin` — a feed next to one at the same place that never fails.

A failed call may have used up reads but not samples.  What it leaves behind is compared with a
state of the other cursor, and this state need not be the one from which the call was made: it only
has to give the same when the call is made again.
-/
import TimeBuckets.Proofs.Conservation
import TimeBuckets.Proofs.Course

namespace TimeBuckets

/-! ### Calls and their replies -/

/-- What a call gives. -/
inductive Reply
  | more (more : Bool)
  | value (value : Float)
  | time (time : Word)
  | done

namespace Call

/-- Whether a call moves the feed to another sample. -/
def jumps : Call → Bool
  | seek _ => true
  | reposition _ => true
  | _ => false

/-- Whether a call may read samples. -/
def reads : Call → Bool
  | hasValue => true
  | nextValue => true
  | openNext => true
  | _ => false

variable {σ : Type} [BucketCursor σ]

/-- The call as an operation. -/
def perform : Call → EStateM Fault σ Reply
  | hasValue => do return .more (← ValueStream.hasValue)
  | nextValue => do return .value (← ValueStream.nextValue)
  | bucketTime => do return .time (← readBucketTime)
  | openNext => do
    BucketCursor.openNext
    return .done
  | seek time => do
    BucketCursor.seek time
    return .done
  | reposition time => do
    BucketCursor.reposition time
    return .done
  | setWidth width => do
    modify (BucketCursor.setWidth width)
    return .done
  | setEnd last => do
    modify (BucketCursor.setEnd last)
    return .done

end Call

section Insisted

variable {σ : Type} [BucketCursor σ]

/-- The replies to calls, whether they succeed or fail, and the cursor that they leave behind. -/
def performAll : List Call → σ → List (Except Fault Reply) × σ
  | [], c => ([], c)
  | call :: rest, c =>
    match call.perform c with
    | .ok reply c' => (.ok reply :: (performAll rest c').1, (performAll rest c').2)
    | .error fault c' => (.error fault :: (performAll rest c').1, (performAll rest c').2)

/-- The replies to calls, each of which is made again if the last read of it was set to fail, and
the cursor that they leave behind. -/
inductive Insisted : List Call → σ → List (Except Fault Reply) → σ → Prop
  | nil {c : σ} : Insisted [] c [] c
  | again {call : Call} {rest : List Call} {c c' last : σ} {fault : Fault}
      {replies : List (Except Fault Reply)} (hrun : call.perform c = .error fault c')
      (hfailed : (BucketCursor.feed c').LastFailed fault)
      (hagain : Insisted (call :: rest) c' replies last) : Insisted (call :: rest) c replies last
  | failed {call : Call} {rest : List Call} {c c' last : σ} {fault : Fault}
      {replies : List (Except Fault Reply)} (hrun : call.perform c = .error fault c')
      (hread : ¬ (BucketCursor.feed c').LastFailed fault) (hrest : Insisted rest c' replies last) :
      Insisted (call :: rest) c (.error fault :: replies) last
  | answered {call : Call} {rest : List Call} {c c' last : σ} {reply : Reply}
      {replies : List (Except Fault Reply)} (hrun : call.perform c = .ok reply c')
      (hrest : Insisted rest c' replies last) :
      Insisted (call :: rest) c (.ok reply :: replies) last

end Insisted

/-! ### Faults of reads -/

theorem Feed.not_lastFailed_of_ne {f : Feed} {fault : Fault}
    (h : ∀ read, fault ≠ .source read) : ¬ f.LastFailed fault := by
  rintro ⟨read, -, heq⟩
  exact h read heq

theorem Feed.not_lastFailed_of_checkOrder {f : Feed} {previous next : Sample} {text : String}
    {fault : Fault} (h : checkOrder previous next text = .error fault) : ¬ f.LastFailed fault := by
  rw [checkOrder] at h
  split at h
  · obtain rfl := Except.error.inj h
    exact Feed.not_lastFailed_of_ne fun _ hfault => by cases hfault
  · cases h

theorem Feed.mem_of_lookup {faults : List (Nat × SourceFault)} {n : Nat} {read : SourceFault}
    (h : faults.lookup n = some read) : ∃ entry ∈ faults, entry.1 = n := by
  induction faults with
  | nil => exact absurd h nofun
  | cons entry rest ih =>
    rw [List.lookup_cons] at h
    rcases heq : n == entry.1 with _ | _
    · rw [heq] at h
      obtain ⟨found, hmem, hfound⟩ := ih h
      exact ⟨found, List.mem_cons_of_mem entry hmem, hfound⟩
    · exact ⟨entry, List.mem_cons_self, (beq_iff_eq.mp heq).symm⟩

/-- After some read no further one is set to fail. -/
theorem Feed.exists_last_fault (faults : List (Nat × SourceFault)) :
    ∃ last, ∀ entry ∈ faults, entry.1 ≤ last := by
  induction faults with
  | nil => exact ⟨0, nofun⟩
  | cons entry rest ih =>
    obtain ⟨last, hlast⟩ := ih
    refine ⟨max entry.1 last, List.forall_mem_cons.mpr ⟨Nat.le_max_left _ _, fun e he => ?_⟩⟩
    exact Nat.le_trans (hlast e he) (Nat.le_max_right _ _)

/-! ### Operations with and without failures -/

section Resumes

variable {σ α β : Type} [BucketCursor σ] {R : Nat → σ → σ → Prop} {n : Nat} {c d : σ}

/-- The same result on both sides, and no failure of a read. -/
inductive Answered (E : σ → σ → Prop) :
    EStateM.Result Fault σ α → EStateM.Result Fault σ α → Prop
  | ok {a : α} {c d : σ} (h : E c d) : Answered E (.ok a c) (.ok a d)
  | error {fault : Fault} {c d : σ} (h : E c d)
      (hread : ¬ (BucketCursor.feed c).LastFailed fault) :
      Answered E (.error fault c) (.error fault d)

/-- The last read of the operation failed, and left a cursor that is related to this one.  The
number bounds the reads so far, which are one more now. -/
def Missed (R : Nat → σ → σ → Prop) (n : Nat) (d : σ) (x : EStateM.Result Fault σ α) : Prop :=
  ∃ fault c', x = .error fault c' ∧ (BucketCursor.feed c').LastFailed fault ∧ R (n + 1) c' d

/-- The operation gives the same on both sides, or fails to read a sample and leaves a cursor that
is related to one of these. -/
def Matches (P : σ → Prop) (R : Nat → σ → σ → Prop) (n : Nat) (run : EStateM Fault σ α) (c d : σ) :
    Prop :=
  Answered (R n) (run c) (run d) ∨ ∃ d', P d' ∧ Missed R n d' (run c)

/-- A failure to read changes nothing that matters. -/
def Follows (R : Nat → σ → σ → Prop) (n : Nat) (run : EStateM Fault σ α) (c d : σ) : Prop :=
  Matches (· = d) R n run c d

/-- After a failure to read the operation gives what it would have given. -/
def Resumes (R : Nat → σ → σ → Prop) (n : Nat) (run : EStateM Fault σ α) (c d : σ) : Prop :=
  Matches (fun d' => run d' = run d) R n run c d

section Matches

variable {P Q : σ → Prop} {run run' : EStateM Fault σ α} {next : α → EStateM Fault σ β}

theorem Matches.imp (h : Matches P R n run c d) (hPQ : ∀ d', P d' → Q d') :
    Matches Q R n run c d :=
  h.imp_right fun ⟨d', hd', hmissed⟩ => ⟨d', hPQ d' hd', hmissed⟩

theorem Matches.congr (hc : run c = run' c) (hd : run d = run' d) (h : Matches P R n run' c d) :
    Matches P R n run c d := by
  rwa [Matches, hc, hd]

theorem Matches.bind (h : Matches P R n run c d)
    (hnext : ∀ a c' d', run c = .ok a c' → run d = .ok a d' → R n c' d' →
      Matches P R n (next a) c' d') : Matches P R n (run >>= next) c d := by
  rcases h with hanswered | ⟨d', hd', fault, c', hrun, hmissed⟩
  · generalize hx : run c = x at hanswered
    generalize hy : run d = y at hanswered
    cases hanswered with
    | ok h =>
      rw [Matches, bind_of_ok hx, bind_of_ok hy]
      exact hnext _ _ _ hx hy h
    | error h hread =>
      rw [Matches, bind_of_error hx, bind_of_error hy]
      exact Or.inl (.error h hread)
  · exact Or.inr ⟨d', hd', fault, c', bind_of_error hrun, hmissed⟩

theorem Follows.resumes (h : Follows R n run c d) : Resumes R n run c d :=
  Matches.imp h fun _ hd' => congrArg run hd'

theorem Matches.map (h : Matches P R n run c d) (f : α → β) :
    Matches P R n (run >>= fun a => pure (f a)) c d :=
  h.bind fun _ _ _ _ _ hcd => Or.inl (.ok hcd)

theorem Resumes.map (h : Resumes R n run c d) (f : α → β) :
    Resumes R n (run >>= fun a => pure (f a)) c d :=
  Matches.map (Matches.imp h fun _ => bind_congr_state) f

/-- What a failed read leaves. -/
theorem Matches.of_failed {fault : Fault} {c' : σ} (h : Matches P R n run c d)
    (hrun : run c = .error fault c') (hfailed : (BucketCursor.feed c').LastFailed fault) :
    ∃ d', P d' ∧ R (n + 1) c' d' := by
  rcases h with hanswered | ⟨d', hd', fault', c'', hrun', -, hmissed⟩
  · rw [hrun] at hanswered
    generalize run d = y at hanswered
    cases hanswered with
    | error _ hread => exact absurd hfailed hread
  · obtain ⟨rfl, rfl⟩ := EStateM.Result.error.inj (hrun.symm.trans hrun')
    exact ⟨d', hd', hmissed⟩

end Matches

end Resumes

/-! ### Insisting -/

section Run

variable {σ : Type} [BucketCursor σ] {R : Nat → σ → σ → Prop}
  {faults : List (Nat × SourceFault)} {calls : List Call}

/-- The reads of the first cursor that are set to fail are these, and the number bounds its reads
so far. -/
def Counted (faults : List (Nat × SourceFault)) (R : Nat → σ → σ → Prop) : Prop :=
  ∀ {n : Nat} {c d : σ}, R n c d →
    (BucketCursor.feed c).readFaults = faults ∧ n ≤ (BucketCursor.feed c).reads

/-- All these calls resume. -/
def Patient (R : Nat → σ → σ → Prop) (calls : List Call) : Prop :=
  ∀ call ∈ calls, ∀ {n : Nat} {c d : σ}, R n c d → Resumes R n call.perform c d

theorem Patient.tail {call : Call} (h : Patient R (call :: calls)) : Patient R calls :=
  fun other hother => h other (List.mem_cons_of_mem call hother)

theorem performAll_congr {call : Call} {c d : σ} (h : call.perform c = call.perform d)
    (rest : List Call) : performAll (call :: rest) c = performAll (call :: rest) d := by
  rw [performAll, performAll, h]

/-- Insisting comes to an end, because only finitely many reads are set to fail. -/
theorem exists_insisted (hR : Counted faults R) :
    ∀ {calls : List Call}, Patient R calls → ∀ {n : Nat} {c d : σ}, R n c d →
      ∃ replies last, Insisted calls c replies last := by
  obtain ⟨greatest, hgreatest⟩ := Feed.exists_last_fault faults
  intro calls
  induction calls with
  | nil => exact fun _ _ c _ _ => ⟨[], c, .nil⟩
  | cons call rest ih =>
    intro hpatient
    have hanswer {n : Nat} {c d : σ}
        (h : Answered (R n) (call.perform c) (call.perform d)) :
        ∃ replies last, Insisted (call :: rest) c replies last := by
      generalize hx : call.perform c = x at h
      generalize call.perform d = y at h
      cases h with
      | ok h =>
        obtain ⟨replies, last, hrest⟩ := ih hpatient.tail h
        exact ⟨_, last, .answered hx hrest⟩
      | error h hread =>
        obtain ⟨replies, last, hrest⟩ := ih hpatient.tail h
        exact ⟨_, last, .failed hx hread hrest⟩
    -- on the number of reads that are left up to the last one that is set to fail
    have hleft : ∀ left {n : Nat} {c d : σ}, greatest ≤ n + left → R n c d →
        ∃ replies last, Insisted (call :: rest) c replies last := by
      intro left
      induction left with
      | zero =>
        intro n c d hle hcd
        rcases hpatient call List.mem_cons_self hcd with hanswered | ⟨d', -, hmissed⟩
        · exact hanswer hanswered
        · obtain ⟨fault, c', -, ⟨read, hlookup, -⟩, hcd'⟩ := hmissed
          obtain ⟨hfaults, hreads⟩ := hR hcd'
          obtain ⟨entry, hentry, hnumber⟩ := Feed.mem_of_lookup hlookup
          have hbound := hgreatest entry (hfaults ▸ hentry)
          omega
      | succ left ihleft =>
        intro n c d hle hcd
        rcases hpatient call List.mem_cons_self hcd with hanswered | ⟨d', -, hmissed⟩
        · exact hanswer hanswered
        · obtain ⟨fault, c', hrun, hfailed, hcd'⟩ := hmissed
          obtain ⟨replies, last, hagain⟩ := ihleft (by omega) hcd'
          exact ⟨replies, last, .again hrun hfailed hagain⟩
    exact fun {n c d} hcd => hleft greatest (Nat.le_add_left greatest n) hcd

/-- Insisting gives what the calls give without any failure, and leaves related cursors. -/
theorem Insisted.eq_performAll {c last : σ} {replies : List (Except Fault Reply)}
    (h : Insisted calls c replies last) (hpatient : Patient R calls) :
    ∀ {n : Nat} {d : σ}, R n c d →
      replies = (performAll calls d).1 ∧ ∃ m, R m last (performAll calls d).2 := by
  induction h with
  | nil => exact fun {n} _ hcd => ⟨rfl, n, hcd⟩
  | @again call rest c c' last fault replies hrun hfailed _ ih =>
    intro n d hcd
    rcases hpatient call List.mem_cons_self hcd with hanswered | ⟨d', hsame, hmissed⟩
    · rw [hrun] at hanswered
      generalize call.perform d = y at hanswered
      cases hanswered with
      | error h hread => exact absurd hfailed hread
    · obtain ⟨fault', c'', hrun', -, hcd'⟩ := hmissed
      obtain ⟨-, rfl⟩ := EStateM.Result.error.inj (hrun.symm.trans hrun')
      rw [← performAll_congr hsame]
      exact ih hpatient hcd'
  | @failed call rest c c' last fault replies hrun hread _ ih =>
    intro n d hcd
    rcases hpatient call List.mem_cons_self hcd with hanswered | ⟨d', -, hmissed⟩
    · rw [hrun] at hanswered
      generalize hy : call.perform d = y at hanswered
      cases hanswered with
      | error h _ =>
        obtain ⟨hreplies, hlast⟩ := ih hpatient.tail h
        rw [performAll, hy]
        exact ⟨congrArg (_ :: ·) hreplies, hlast⟩
    · obtain ⟨fault', c'', hrun', hfailed, -⟩ := hmissed
      obtain ⟨rfl, rfl⟩ := EStateM.Result.error.inj (hrun.symm.trans hrun')
      exact absurd hfailed hread
  | @answered call rest c c' last reply replies hrun _ ih =>
    intro n d hcd
    rcases hpatient call List.mem_cons_self hcd with hanswered | ⟨d', -, hmissed⟩
    · rw [hrun] at hanswered
      generalize hy : call.perform d = y at hanswered
      cases hanswered with
      | ok h =>
        obtain ⟨hreplies, hlast⟩ := ih hpatient.tail h
        rw [performAll, hy]
        exact ⟨congrArg (_ :: ·) hreplies, hlast⟩
    · obtain ⟨fault', c'', hrun', -, -⟩ := hmissed
      exact absurd (hrun.symm.trans hrun') nofun

/-- What reads no sample is the same for related cursors. -/
structure Inert (R : Nat → σ → σ → Prop) : Prop where
  bucketTime {n : Nat} {c d : σ} :
    R n c d → BucketCursor.bucketTime c = BucketCursor.bucketTime d
  bucketTime_ne (c : σ) (read : SourceFault) :
    BucketCursor.bucketTime c ≠ .error (.source read)
  setWidth {n : Nat} {c d : σ} (width : Word) :
    R n c d → R n (BucketCursor.setWidth width c) (BucketCursor.setWidth width d)
  setEnd {n : Nat} {c d : σ} (last : Word) :
    R n c d → R n (BucketCursor.setEnd last c) (BucketCursor.setEnd last d)

/-- Whatever reads samples resumes after a failure. -/
structure Resuming (R : Nat → σ → σ → Prop) : Prop extends Inert R where
  hasValue {n : Nat} {c d : σ} : R n c d → Resumes R n ValueStream.hasValue c d
  nextValue {n : Nat} {c d : σ} : R n c d → Resumes R n ValueStream.nextValue c d
  openNext {n : Nat} {c d : σ} : R n c d → Resumes R n BucketCursor.openNext c d

theorem Resuming.patient (h : Resuming R) (hcalls : ∀ call ∈ calls, call.jumps = false) :
    Patient R calls := by
  intro call hcall n c d hcd
  have hjump := hcalls call hcall
  cases call with
  | hasValue => exact (h.hasValue hcd).map Reply.more
  | nextValue => exact (h.nextValue hcd).map Reply.value
  | bucketTime =>
    refine Resumes.map (Or.inl ?_) Reply.time
    rw [readBucketTime, readBucketTime, h.bucketTime hcd]
    rcases htime : BucketCursor.bucketTime d with fault | time
    · refine .error hcd (Feed.not_lastFailed_of_ne fun read hread => ?_)
      exact h.bucketTime_ne d read (htime.trans (congrArg Except.error hread))
    · exact .ok hcd
  | openNext => exact (h.openNext hcd).map fun _ => Reply.done
  | seek time => exact absurd hjump.symm Bool.false_ne_true
  | reposition time => exact absurd hjump.symm Bool.false_ne_true
  | setWidth width => exact Or.inl (.ok (h.setWidth width hcd))
  | setEnd last => exact Or.inl (.ok (h.setEnd last hcd))

/-- Insisting on calls that do not jump comes to an end, and then they have given what they give
above the calm feed, and have left the same but for the reads. -/
def Recovers (calm : σ → σ) (c : σ) : Prop :=
  ∀ calls : List Call, (∀ call ∈ calls, call.jumps = false) →
    (∃ replies last, Insisted calls c replies last) ∧
    ∀ replies last, Insisted calls c replies last →
      replies = (performAll calls (calm c)).1 ∧
      calm last = calm (performAll calls (calm c)).2

theorem Resuming.recovers (h : Resuming R) (hcounted : Counted faults R) {calm : σ → σ}
    (hcalm : ∀ {n : Nat} {c d : σ}, R n c d → calm d = calm c) {n : Nat} {c : σ}
    (hc : R n c (calm c)) : Recovers calm c := by
  intro calls hcalls
  refine ⟨exists_insisted hcounted (h.patient hcalls) hc, fun replies last hlast => ?_⟩
  obtain ⟨hreplies, m, hcd⟩ := hlast.eq_performAll (h.patient hcalls) hc
  exact ⟨hreplies, (hcalm hcd).symm⟩

end Run

/-! ### Feeds and their twins -/

namespace Feed

variable {faults : List (Nat × SourceFault)} {n : Nat} {e f : Feed}

/-- The feed at its place, with no reads so far and none that is set to fail. -/
def calm (f : Feed) : Feed := { f with reads := 0, readFaults := [] }

/-- The second feed is at the same place as the first one and never fails to read a sample. -/
structure Twin (faults : List (Nat × SourceFault)) (n : Nat) (e f : Feed) : Prop where
  samples_eq : f.samples = e.samples
  position_eq : f.position = e.position
  seekFault_eq : f.seekFault = e.seekFault
  faults_eq : e.readFaults = faults
  reads_le : n ≤ e.reads
  reliable : f.readFaults = []

theorem twin_calm (f : Feed) : Twin f.readFaults f.reads f f.calm :=
  ⟨rfl, rfl, rfl, rfl, Nat.le_refl _, rfl⟩

namespace Twin

theorem calm_eq (h : Twin faults n e f) : f.calm = e.calm := by
  rw [calm, calm, h.samples_eq, h.position_eq, h.seekFault_eq]

theorem remaining_eq (h : Twin faults n e f) : f.remaining = e.remaining := by
  rw [remaining, remaining, h.samples_eq, h.position_eq]

theorem hasNext_eq (h : Twin faults n e f) : f.hasNext = e.hasNext := by
  rw [Feed.hasNext_eq, Feed.hasNext_eq, h.remaining_eq]

theorem text_eq (h : Twin faults n e f) : f.text = e.text := by
  unfold Feed.text
  rw [h.samples_eq, h.position_eq]

theorem advanced (h : Twin faults n e f) : Twin faults n e.advanced f.advanced :=
  ⟨h.samples_eq, congrArg (· + 1) h.position_eq, h.seekFault_eq, h.faults_eq,
    Nat.le_succ_of_le h.reads_le, h.reliable⟩

/-- After a failed read the feeds are at the same place again, with one more read behind. -/
theorem missed_left (h : Twin faults n e f) : Twin faults (n + 1) e.missed f :=
  ⟨h.samples_eq, h.position_eq, h.seekFault_eq, h.faults_eq, Nat.succ_le_succ h.reads_le,
    h.reliable⟩

theorem missed (h : Twin faults n e f) : Twin faults n e.missed f.missed :=
  ⟨h.samples_eq, h.position_eq, h.seekFault_eq, h.faults_eq, Nat.le_succ_of_le h.reads_le,
    h.reliable⟩

/-- A read gives the same sample, or finds none in both feeds, or is set to fail. -/
theorem next_cases (h : Twin faults n e f) :
    (∃ s, e.next = .ok s e.advanced ∧ f.next = .ok s f.advanced) ∨
    (e.next = .error .exhausted e.missed ∧ f.next = .error .exhausted f.missed ∧
      ¬ e.missed.LastFailed (.source .exhausted)) ∨
    ∃ fault, e.next = .error fault e.missed ∧ e.missed.LastFailed (.source fault) := by
  rcases hfault : e.nextFault? with _ | fault
  · have hremaining := h.remaining_eq
    rcases hrem : e.remaining with _ | ⟨s, rest⟩
    · rw [hrem] at hremaining
      have hget : e.samples[e.position]? = none := by
        have hhead := congrArg List.head? hrem
        rwa [remaining, List.head?_drop, List.head?_nil, Array.getElem?_toList] at hhead
      refine Or.inr (Or.inl ⟨by rw [next, hfault, hget, Feed.missed],
        next_of_nil h.reliable hremaining, ?_⟩)
      rintro ⟨read, hlookup, -⟩
      exact absurd (hlookup.symm.trans hfault) (Option.some_ne_none read)
    · rw [hrem] at hremaining
      exact Or.inl ⟨s, next_of_no_fault hfault hrem, next_of_remaining h.reliable hremaining⟩
  · exact Or.inr (Or.inr ⟨fault, next_of_fault hfault, lastFailed_missed hfault⟩)

end Twin

end Feed

end TimeBuckets
