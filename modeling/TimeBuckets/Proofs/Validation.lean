/-
Settings that pass validation.

* `Settings.validateBy` — validation with any table of zone names;
* `Settings.validateBy_error_iff` — validation fails exactly when one of the texts cannot be read;
* `Blameless` — cursors none of whose operations blames a setting, which is true of every shape;
* `Settings.validated_suffice` — settings that pass can be read and built from, and no request to
  what was built blames a setting.

The settings meet the cursors in one place only, which is where a grid is made: reading an interval
gives a positive width unless its buckets are runs, and runs need no width.
-/
import TimeBuckets.Proofs.Agreement
import TimeBuckets.Proofs.Faults
import TimeBuckets.Proofs.Seek
import TimeBuckets.Proofs.Spelling
import TimeBuckets.Settings.Basic

namespace TimeBuckets

/-! ### Reading settings -/

/-- Reading an interval gives a width that buckets can have, where they need one. -/
theorem Interval.width_pos_of_parse {text : String} {interval : Interval}
    (h : parse text = .ok interval) : interval.unit = .run ∨ 0 < interval.width := by
  obtain ⟨-, hknown, -, hpositive, hproduct⟩ := written_of_parse h
  rename_i digits letters size unit width
  by_cases hrun : unit = .run
  · exact Or.inl hrun
  · have hsize := one_le_of_mem_units hknown
    have hamount := hpositive hrun
    refine Or.inr (Int64.lt_iff_toInt_lt.mpr ?_)
    rw [Int64.toInt_zero, hproduct]
    exact Int.mul_pos (by omega) (by omega)

namespace Settings

variable {zoneOf : String → Except SettingFault Zone} {s : Settings}

/-- A fault unless every text about the buckets can be read, the name of the zone in this table. -/
def validateBy (zoneOf : String → Except SettingFault Zone) (s : Settings) :
    Except SettingFault Unit := do
  let _ ← s.buckets.readInterval
  let _ ← s.buckets.readStatistic
  let _ ← zoneOf s.buckets.zone
  let _ ← s.buckets.readRate

theorem validate_eq (s : Settings) : s.validate = s.validateBy Zone.parse := rfl

/-- Everything that settings say about buckets. -/
structure Readable (zoneOf : String → Except SettingFault Zone) (s : Settings) (interval : Interval)
    (statistic : Statistic) (zone : Zone) (options : RateOptions) : Prop where
  interval : s.buckets.readInterval = .ok interval
  statistic : s.buckets.readStatistic = .ok statistic
  zone : zoneOf s.buckets.zone = .ok zone
  options : s.buckets.readRate = .ok options

/-- One of the texts about the buckets cannot be read, for this reason. -/
def Unreadable (zoneOf : String → Except SettingFault Zone) (s : Settings) (fault : SettingFault) :
    Prop :=
  s.buckets.readInterval = .error fault ∨ s.buckets.readStatistic = .error fault ∨
    zoneOf s.buckets.zone = .error fault ∨ s.buckets.readRate = .error fault

/-- The texts are read in order, and the first one that cannot be read decides. -/
theorem validateBy_cases (zoneOf : String → Except SettingFault Zone) (s : Settings) :
    (s.validateBy zoneOf = .ok () ∧ ∃ interval statistic zone options,
      Readable zoneOf s interval statistic zone options) ∨
    ∃ fault, s.validateBy zoneOf = .error fault ∧ Unreadable zoneOf s fault := by
  rcases hinterval : s.buckets.readInterval with fault | interval
  · refine Or.inr ⟨fault, ?_, Or.inl hinterval⟩
    rw [validateBy, hinterval]
    rfl
  rcases hstatistic : s.buckets.readStatistic with fault | statistic
  · refine Or.inr ⟨fault, ?_, Or.inr (Or.inl hstatistic)⟩
    rw [validateBy, hinterval, hstatistic]
    rfl
  rcases hzone : zoneOf s.buckets.zone with fault | zone
  · refine Or.inr ⟨fault, ?_, Or.inr (Or.inr (Or.inl hzone))⟩
    rw [validateBy, hinterval, hstatistic, hzone]
    rfl
  rcases hrate : s.buckets.readRate with fault | options
  · refine Or.inr ⟨fault, ?_, Or.inr (Or.inr (Or.inr hrate))⟩
    rw [validateBy, hinterval, hstatistic, hzone, hrate]
    rfl
  · refine Or.inl ⟨?_, interval, statistic, zone, options, hinterval, hstatistic, hzone, hrate⟩
    rw [validateBy, hinterval, hstatistic, hzone, hrate]
    rfl

theorem Readable.not_unreadable {interval : Interval} {statistic : Statistic} {zone : Zone}
    {options : RateOptions} {fault : SettingFault}
    (h : Readable zoneOf s interval statistic zone options) : ¬ Unreadable zoneOf s fault := by
  rintro (hfault | hfault | hfault | hfault)
  · cases h.interval.symm.trans hfault
  · cases h.statistic.symm.trans hfault
  · cases h.zone.symm.trans hfault
  · cases h.options.symm.trans hfault

theorem validateBy_error_iff :
    (∃ fault, s.validateBy zoneOf = .error fault) ↔ ∃ fault, Unreadable zoneOf s fault := by
  rcases validateBy_cases zoneOf s with ⟨hok, _, _, _, _, hreadable⟩ | ⟨fault, herror, hunreadable⟩
  · constructor
    · rintro ⟨fault, herror⟩
      cases hok.symm.trans herror
    · rintro ⟨fault, hunreadable⟩
      exact absurd hunreadable hreadable.not_unreadable
  · exact ⟨fun _ => ⟨fault, hunreadable⟩, fun _ => ⟨fault, herror⟩⟩

end Settings

/-- A width that buckets can have is all that a resampler needs to be built. -/
theorem AnyResampler.exists_build {interval : Interval}
    (h : interval.unit = .run ∨ 0 < interval.width) (feed : Feed) (statistic : Statistic)
    (zone : Zone) (options : RateOptions) :
    ∃ b, build feed interval statistic zone options = .ok b := by
  have hcursor : ∃ c, cursorFor feed interval zone options = .ok c := by
    rcases hunit : interval.unit with _ | _ | _ | _
    case run =>
      rw [cursorFor, hunit]
      exact ⟨_, rfl⟩
    all_goals
      have hpos : 0 < interval.width := h.resolve_left (by rw [hunit]; decide)
      have hmake : Grid.make feed interval.width zone.standardMillis options.counter? = _ :=
        dif_pos hpos
      rw [cursorFor, hunit]
      simp only [hmake, bind, Except.bind]
      exact ⟨_, rfl⟩
  obtain ⟨c, hcursor⟩ := hcursor
  rw [build, hcursor]
  exact ⟨_, rfl⟩

/-! ### Faults about settings -/

/-- The fault is about a setting. -/
def Fault.IsSetting : Fault → Prop
  | setting _ => True
  | _ => False

/-! ### Cursors that never blame a setting -/

/-- No operation of the cursors blames a setting. -/
structure Blameless (σ : Type) [BucketCursor σ] : Prop where
  hasValue : FaultsIn (¬ ·.IsSetting) (ValueStream.hasValue (σ := σ))
  nextValue : FaultsIn (¬ ·.IsSetting) (ValueStream.nextValue (σ := σ))
  bucketTime : FaultsIn (¬ ·.IsSetting) (readBucketTime (σ := σ))
  openNext : FaultsIn (¬ ·.IsSetting) (BucketCursor.openNext (σ := σ))
  seek (time : Word) : FaultsIn (¬ ·.IsSetting) (BucketCursor.seek (σ := σ) time)
  reposition (time : Word) : FaultsIn (¬ ·.IsSetting) (BucketCursor.reposition (σ := σ) time)

theorem blameless_readBucketTime {σ : Type} [BucketCursor σ]
    (h : ∀ (c : σ) fault, BucketCursor.bucketTime c = .error fault → ¬ fault.IsSetting) :
    FaultsIn (¬ ·.IsSetting) (readBucketTime (σ := σ)) := by
  intro c fault c' hrun
  rw [readBucketTime] at hrun
  rcases htime : BucketCursor.bucketTime c with cause | time
  · rw [htime] at hrun
    obtain ⟨rfl, -⟩ := EStateM.Result.error.inj hrun
    exact h c cause htime
  · rw [htime] at hrun
    cases hrun

theorem blameless_checkOrder {previous next : Sample} {cursor : String} {fault : Fault}
    (h : checkOrder previous next cursor = .error fault) : ¬ fault.IsSetting := by
  rw [checkOrder] at h
  split at h
  · obtain rfl := Except.error.inj h
    exact id
  · cases h

/-- The fault of a pair that a counter cannot count is about no setting. -/
theorem Counter.blameless_delta {c : Counter} {previous next : Sample} {fault : Fault}
    (h : c.delta previous next = .error fault) : ¬ fault.IsSetting := by
  rw [delta] at h
  split at h
  · cases h
  · obtain rfl := Except.error.inj h
    exact id

namespace Grid

theorem blameless_hasValue : FaultsIn (¬ ·.IsSetting) hasValue :=
  faultsIn_hasValue (fun _ => id) fun _ => id

theorem blameless_count (c : Counter) (current : Sample) :
    FaultsIn (¬ ·.IsSetting) (count c current) := by
  refine (faultsIn_read fun _ => id).bind fun next => FaultsIn.get_bind fun g => ?_
  rcases horder : checkOrder current next g.text with fault | _
  · exact FaultsIn.throw (blameless_checkOrder horder)
  · refine (FaultsIn.set _).bind fun _ => ?_
    rcases hdelta : c.delta current next with fault | amount
    · exact FaultsIn.throw (Counter.blameless_delta hdelta)
    · exact FaultsIn.pure amount

theorem blameless_nextValue : FaultsIn (¬ ·.IsSetting) nextValue := by
  refine blameless_hasValue.bind fun more => FaultsIn.get_bind fun g => ?_
  refine FaultsIn.ite ?_ (FaultsIn.throw id)
  rcases g.phase with _ | s | _
  · exact FaultsIn.throw id
  · rcases g.counter with _ | c
    · exact (faultsIn_pull fun _ => id).bind fun _ => FaultsIn.pure _
    · exact blameless_count c s
  · exact FaultsIn.throw id

theorem blameless_align {g : Grid} {time : Word} {fault : Fault}
    (h : g.align time = .error fault) : ¬ fault.IsSetting := by
  rw [align] at h
  split at h
  · cases h
  · obtain rfl := Except.error.inj h
    exact id

theorem blameless_bucketTime (g : Grid) (fault : Fault) (h : g.bucketTime = .error fault) :
    ¬ fault.IsSetting := by
  rw [bucketTime] at h
  split at h
  · exact blameless_align h
  · obtain rfl := Except.error.inj h
    exact id

theorem blameless_reposition (time : Word) : FaultsIn (¬ ·.IsSetting) (reposition time) := by
  intro g fault g' h
  rw [reposition] at h
  rcases hseek : Feed.seek time g.feed with ⟨_, feed⟩ | ⟨cause, feed⟩
  · rw [hseek] at h
    cases h
  · rw [hseek] at h
    obtain ⟨rfl, -⟩ := EStateM.Result.error.inj h
    exact id

theorem blameless_seek (time : Word) : FaultsIn (¬ ·.IsSetting) (seek time) := by
  intro g fault g' h
  obtain ⟨target, hrun⟩ := exists_reposition g time
  rw [hrun] at h
  exact blameless_reposition target g fault g' h

theorem blameless : Blameless Grid where
  hasValue := blameless_hasValue
  nextValue := blameless_nextValue
  bucketTime := blameless_readBucketTime blameless_bucketTime
  openNext := faultsIn_openNext (fun _ => id) fun _ => id
  seek := blameless_seek
  reposition := blameless_reposition

end Grid

namespace Runs

theorem blameless_read : FaultsIn (¬ ·.IsSetting) read := by
  intro r fault r' h
  rw [read] at h
  rcases hnext : r.feed.next with ⟨s, feed⟩ | ⟨cause, feed⟩
  · rw [hnext] at h
    cases h
  · rw [hnext] at h
    obtain ⟨rfl, -⟩ := EStateM.Result.error.inj h
    exact id

theorem blameless_pairWith (previous : Sample) :
    FaultsIn (¬ ·.IsSetting) (pairWith previous) := by
  refine blameless_read.bind fun current => FaultsIn.get_bind fun r => ?_
  rcases horder : checkOrder previous current r.text with fault | _
  · exact FaultsIn.throw (blameless_checkOrder horder)
  · exact FaultsIn.set _

theorem blameless_advance : FaultsIn (¬ ·.IsSetting) advance := by
  refine FaultsIn.get_bind fun r => ?_
  rcases r.phase with _ | pair | _
  · exact FaultsIn.pure ()
  · exact FaultsIn.ite (blameless_pairWith pair.current) (FaultsIn.set _)
  · exact FaultsIn.pure ()

theorem blameless_contributed (pair : Pair) : FaultsIn (¬ ·.IsSetting) (contributed pair) := by
  intro r fault r' h
  rw [contributed] at h
  rcases hcontribution : contribution r.counter pair with cause | amount
  · rw [hcontribution] at h
    obtain ⟨rfl, -⟩ := EStateM.Result.error.inj h
    rcases hcounter : r.counter with _ | c
    · rw [hcounter] at hcontribution
      cases hcontribution
    · rw [hcounter] at hcontribution
      exact Counter.blameless_delta hcontribution
  · rw [hcontribution] at h
    cases h

theorem blameless_skip (n : Nat) : FaultsIn (¬ ·.IsSetting) (skip n) := by
  induction n with
  | zero => exact FaultsIn.pure ()
  | succ n ih =>
    refine FaultsIn.get_bind fun r => ?_
    rcases r.phase with _ | pair | _
    · exact FaultsIn.pure ()
    · exact (blameless_contributed pair).bind fun _ =>
        FaultsIn.ite (FaultsIn.set _) (blameless_advance.bind fun _ => ih)
    · exact FaultsIn.pure ()

theorem blameless_skipIdle : FaultsIn (¬ ·.IsSetting) skipIdle :=
  FaultsIn.get_bind fun _ => blameless_skip _

theorem blameless_readFirst : FaultsIn (¬ ·.IsSetting) readFirst := by
  refine (FaultsIn.modify _).bind fun _ => FaultsIn.get_bind fun r => ?_
  refine FaultsIn.ite (blameless_read.bind fun first => FaultsIn.get_bind fun r' => ?_)
    (FaultsIn.pure ())
  exact FaultsIn.ite (blameless_pairWith first) (FaultsIn.pure ())

theorem blameless_fill : FaultsIn (¬ ·.IsSetting) fill := by
  refine FaultsIn.get_bind fun r => ?_
  rcases r.phase with _ | pair | _
  · exact blameless_readFirst.bind fun _ => blameless_skipIdle
  · exact FaultsIn.pure ()
  · exact FaultsIn.pure ()

theorem blameless_holdsLive : FaultsIn (¬ ·.IsSetting) holdsLive := by
  refine FaultsIn.get_bind fun r => ?_
  rcases r.phase with _ | pair | _
  · exact FaultsIn.pure false
  · exact (blameless_contributed pair).bind fun _ => FaultsIn.pure _
  · exact FaultsIn.pure false

theorem blameless_hasValue : FaultsIn (¬ ·.IsSetting) hasValue :=
  blameless_fill.bind fun _ => blameless_holdsLive

theorem blameless_nextValue : FaultsIn (¬ ·.IsSetting) nextValue := by
  refine blameless_hasValue.bind fun more => FaultsIn.get_bind fun r => ?_
  refine FaultsIn.ite ?_ (FaultsIn.throw id)
  rcases r.phase with _ | pair | _
  · exact FaultsIn.throw id
  · exact (blameless_contributed pair).bind fun _ =>
      blameless_advance.bind fun _ => FaultsIn.pure _
  · exact FaultsIn.throw id

theorem blameless_reposition (time : Word) : FaultsIn (¬ ·.IsSetting) (reposition time) := by
  intro r fault r' h
  rw [reposition] at h
  rcases hseek : Feed.seek time r.feed with ⟨_, feed⟩ | ⟨cause, feed⟩
  · rw [hseek] at h
    cases h
  · rw [hseek] at h
    obtain ⟨rfl, -⟩ := EStateM.Result.error.inj h
    exact id

theorem blameless : Blameless Runs where
  hasValue := blameless_hasValue
  nextValue := blameless_nextValue
  bucketTime := blameless_readBucketTime fun _ _ h => absurd h nofun
  openNext := blameless_fill.bind fun _ => blameless_skipIdle
  seek := blameless_reposition
  reposition := blameless_reposition

end Runs

namespace CalendarCursor

variable {σ : Type}

variable [BucketCursor σ]

theorem blameless_bucketTime (c : CalendarCursor σ) (fault : Fault)
    (h : c.bucketTime = .error fault) : ¬ fault.IsSetting := by
  rcases hphase : c.phase with _ | last | _
  case ready =>
    rw [withinRange_bucketTime hphase fault h]
    exact id
  all_goals
    rw [bucketTime, hphase] at h
    obtain rfl := Except.error.inj h
    exact id

section Steps

variable (h : Blameless σ)

include h

theorem blameless_hasValue : FaultsIn (¬ ·.IsSetting) (hasValue (σ := σ)) :=
  faultsIn_hasValue (fun _ => id) h.hasValue h.openNext

theorem blameless_nextValue : FaultsIn (¬ ·.IsSetting) (nextValue (σ := σ)) :=
  (blameless_hasValue h).bind fun _ => FaultsIn.ite (faultsIn_below h.nextValue)
    (FaultsIn.get_bind fun _ => FaultsIn.throw id)

theorem blameless_reposition (time : Word) :
    FaultsIn (¬ ·.IsSetting) (reposition (σ := σ) time) :=
  (faultsIn_below (h.reposition time)).bind fun _ => FaultsIn.modify _

theorem blameless_seek (time : Word) : FaultsIn (¬ ·.IsSetting) (seek (σ := σ) time) := by
  refine FaultsIn.get_bind fun c => ?_
  rcases htarget : c.unitFrom time with fault | target
  · refine FaultsIn.throw ?_
    rw [withinRange_unitFrom c time fault htarget]
    exact id
  · exact blameless_reposition h target

/-- A calendar blames no setting if the cursor below blames none. -/
theorem blameless : Blameless (CalendarCursor σ) where
  hasValue := blameless_hasValue h
  nextValue := blameless_nextValue h
  bucketTime := blameless_readBucketTime blameless_bucketTime
  openNext := faultsIn_openNext (fun _ => id) h.hasValue h.openNext
  seek := blameless_seek h
  reposition := blameless_reposition h

end Steps

end CalendarCursor

theorem Shape.blameless (shape : Shape) : Blameless shape.State := by
  induction shape with
  | grid => exact Grid.blameless
  | runs => exact Runs.blameless
  | calendar inner ih => exact CalendarCursor.blameless ih

/-! ### Resamplers that never blame a setting -/

theorem FaultsIn.takeValues {σ : Type} [ValueStream σ] {Q : Fault → Prop}
    (hhas : FaultsIn Q (ValueStream.hasValue (σ := σ)))
    (hnext : FaultsIn Q (ValueStream.nextValue (σ := σ))) (n : Nat) :
    FaultsIn Q (takeValues (σ := σ) n) := by
  induction n with
  | zero => exact FaultsIn.pure []
  | succ n ih =>
    refine hhas.bind fun more => FaultsIn.ite ?_ (FaultsIn.pure [])
    exact hnext.bind fun value => ih.bind fun rest => FaultsIn.pure (value :: rest)

namespace Resampler

variable {σ : Type}

theorem faultsIn_onCursor {α : Type} {Q : Fault → Prop} {run : EStateM Fault σ α}
    (h : FaultsIn Q run) : FaultsIn Q (onCursor run) := by
  intro r fault r' hrun
  rcases hcursor : run r.cursor with ⟨a, c⟩ | ⟨cause, c⟩
  · rw [onCursor_of_ok hcursor] at hrun
    cases hrun
  · rw [onCursor_of_error hcursor] at hrun
    obtain ⟨rfl, -⟩ := EStateM.Result.error.inj hrun
    exact h r.cursor cause c hcursor

variable [BucketCursor σ] (h : Blameless σ)

include h

theorem blameless_takeBucket (s : Statistic) :
    FaultsIn (¬ ·.IsSetting) (takeBucket (σ := σ) s) := by
  have hvalues : FaultsIn (¬ ·.IsSetting) (bucketValues (σ := σ)) :=
    FaultsIn.get_bind fun _ => FaultsIn.takeValues h.hasValue h.nextValue _
  refine FaultsIn.bind (hvalues.bind fun values => ?_) fun _ =>
    h.bucketTime.bind fun _ => h.openNext.bind fun _ => FaultsIn.pure _
  rcases s.ofValues? values with _ | value
  · exact FaultsIn.throw id
  · exact FaultsIn.pure value

theorem blameless_nextPoint : FaultsIn (¬ ·.IsSetting) (nextPoint (σ := σ)) := by
  refine (faultsIn_onCursor h.hasValue).bind fun more => FaultsIn.ite ?_ ?_
  · refine FaultsIn.get_bind fun r => ?_
    refine (faultsIn_onCursor (blameless_takeBucket h _)).bind fun point => ?_
    exact (FaultsIn.modify _).bind fun _ => FaultsIn.pure point
  · exact FaultsIn.get_bind fun r => FaultsIn.throw id

theorem blameless_next? : FaultsIn (¬ ·.IsSetting) (next? (σ := σ)) :=
  (faultsIn_onCursor h.hasValue).bind fun _ =>
    FaultsIn.ite ((blameless_nextPoint h).bind fun _ => FaultsIn.pure _) (FaultsIn.pure none)

omit h [BucketCursor σ] in
theorem of_answerOf_error {τ α : Type} {form : α → Answer} {run : EStateM Fault τ α} {c : τ}
    {Q : Fault → Prop} {fault : Fault} (hrun : FaultsIn Q run)
    (hanswer : answerOf form (run c) = .error fault) : Q fault := by
  rcases hresult : run c with ⟨a, c'⟩ | ⟨cause, c'⟩
  · rw [hresult] at hanswer
    cases hanswer
  · rw [hresult] at hanswer
    obtain rfl := Except.error.inj hanswer
    exact hrun c cause c' hresult

/-- No answer to a request blames a setting. -/
theorem blameless_answer (r : Resampler σ) {request : Request} {fault : Fault}
    (hanswer : r.answer request = .error fault) : ¬ fault.IsSetting := by
  cases request with
  | hasNext => exact of_answerOf_error (faultsIn_onCursor h.hasValue) hanswer
  | nextPoint => exact of_answerOf_error (blameless_nextPoint h) hanswer
  | next? => exact of_answerOf_error (blameless_next? h) hanswer
  | seek time => exact of_answerOf_error (faultsIn_onCursor (h.seek time)) hanswer

/-- However requests follow one another, none of the answers blames a setting. -/
theorem blameless_answers (requests : List Request) (cause : SettingFault) :
    ∀ r : Resampler σ, .error (.setting cause) ∉ r.answers requests := by
  induction requests with
  | nil => exact fun _ => List.not_mem_nil
  | cons request rest ih =>
    intro r hmem
    rcases List.mem_cons.mp hmem with hfirst | hrest
    · exact blameless_answer h r hfirst.symm trivial
    · exact ih _ hrest

end Resampler

/-! ### Settings that pass -/

namespace Settings

/-- Validation fails exactly when one of the texts cannot be read.  Otherwise they can all be read,
and over every feed there is a resampler for them none of whose answers blames a setting, whatever
is asked of it and whatever fails before. -/
theorem validated_suffice (zoneOf : String → Except SettingFault Zone) (s : Settings) :
    s.validate = s.validateBy Zone.parse ∧
    ((∃ fault, s.validateBy zoneOf = .error fault) ↔ ∃ fault, Unreadable zoneOf s fault) ∧
    (s.validateBy zoneOf = .ok () →
      ∃ interval statistic zone options, Readable zoneOf s interval statistic zone options ∧
        ∀ feed, ∃ b, AnyResampler.build feed interval statistic zone options = .ok b ∧
          ∀ requests cause, .error (.setting cause) ∉ b.resampler.answers requests) := by
  refine ⟨validate_eq s, validateBy_error_iff, fun hok => ?_⟩
  rcases validateBy_cases zoneOf s with ⟨-, interval, statistic, zone, options, hreadable⟩ |
    ⟨fault, herror, -⟩
  · refine ⟨interval, statistic, zone, options, hreadable, fun feed => ?_⟩
    have hwidth := Interval.width_pos_of_parse hreadable.interval
    obtain ⟨b, hbuild⟩ := AnyResampler.exists_build hwidth feed statistic zone options
    exact ⟨b, hbuild, fun requests cause =>
      Resampler.blameless_answers b.shape.blameless requests cause b.resampler⟩
  · cases hok.symm.trans herror

/-- Months of Paris over a counter, with blanks and capitals in the texts. -/
theorem validated_suffice_of_months :
    ({ buckets := ⟨" 1n ", "MAX", "Europe/Paris", some "counter,,5"⟩ } : Settings).validateBy
        Zone.parse = .ok () ∧
      ∃ interval statistic zone options,
        Readable Zone.parse { buckets := ⟨" 1n ", "MAX", "Europe/Paris", some "counter,,5"⟩ }
          interval statistic zone options ∧
        ∀ feed, ∃ b, AnyResampler.build feed interval statistic zone options = .ok b ∧
          ∀ requests cause, .error (.setting cause) ∉ b.resampler.answers requests :=
  have hok : ({ buckets := ⟨" 1n ", "MAX", "Europe/Paris", some "counter,,5"⟩ } :
      Settings).validateBy Zone.parse = .ok () := rfl
  ⟨hok, (validated_suffice Zone.parse _).2.2 hok⟩

end Settings

end TimeBuckets
