/-
Points that are completed and points that are given out.

* `Resampler.completes?`, `Resampler.completed` — the points of the buckets that requests read to
  their end, given out or not;
* `Resampler.Outcome` — what one request does with the point that it completes: it gives the point
  out, or fails to open the next bucket;
* `Resampler.completed_eq` — over any requests, at most the last point that was completed is missing
  among the points that were given out;
* `AnyResampler.lost_when_next_fails` — the same for whatever is built, after anything was asked
  before.

A point is given out by the request that completes it or not at all.  When the next bucket cannot be
opened, the cursor stays at the end of the bucket that was read, or fails whenever it is asked, and
has no value until it jumps.
-/
import TimeBuckets.Proofs.CalendarCourse

namespace TimeBuckets

theorem Answer.points_cons (answer : Except Fault Answer) (rest : List (Except Fault Answer)) :
    points (answer :: rest) = points [answer] ++ points rest := by
  rw [points, points, points, ← List.filterMap_append]
  rfl

namespace Resampler

variable {σ : Type} [BucketCursor σ] {r : Resampler σ} {c : σ} {fault : Fault} {request : Request}

/-! ### Completed points -/

/-- The point of the open bucket and the cursor at its end, if there is a bucket that can be read to
its end and has a time. -/
def finished? (r : Resampler σ) : Option (Point × σ) :=
  match ValueStream.hasValue r.cursor with
  | .ok true c =>
    match readBucket r.statistic c with
    | .ok point c' => some (point, c')
    | .error _ _ => none
  | _ => none

/-- The point that a request completes, and the cursor before the next bucket is opened. -/
def completes? (r : Resampler σ) : Request → Option (Point × σ)
  | .nextPoint => r.finished?
  | .next? => r.finished?
  | _ => none

/-- The points that requests complete, one after the other. -/
def completed (r : Resampler σ) : List Request → List Point
  | [] => []
  | request :: rest =>
    ((r.completes? request).map Prod.fst).toList ++ (r.handle request).completed rest

/-! ### Single requests -/

theorem finished?_of_hasValue (hhas : ValueStream.hasValue r.cursor = .ok true c) :
    r.finished? = match readBucket r.statistic c with
      | .ok point c' => some (point, c')
      | .error _ _ => none := by
  rw [finished?, hhas]

theorem finished?_of_hasValue_error (hhas : ValueStream.hasValue r.cursor = .error fault c) :
    r.finished? = none := by
  rw [finished?, hhas]

theorem finished?_of_not_hasValue (hhas : ValueStream.hasValue r.cursor = .ok false c) :
    r.finished? = none := by
  rw [finished?, hhas]

theorem nextPoint_of_not_hasValue (hhas : ValueStream.hasValue r.cursor = .ok false c) :
    ∃ fault, r.nextPoint = .error fault { r with cursor := c } := by
  have hmore : r.hasNext = .ok false { r with cursor := c } := onCursor_of_ok hhas
  rw [nextPoint, bind_of_ok hmore]
  exact ⟨_, rfl⟩

theorem nextPoint_of_hasValue_error (hhas : ValueStream.hasValue r.cursor = .error fault c) :
    r.nextPoint = .error fault { r with cursor := c } := by
  have hmore : r.hasNext = .error fault { r with cursor := c } := onCursor_of_error hhas
  exact bind_of_error hmore

/-- If asking twice gives the same, a request for a point that may be missing is one for a point. -/
theorem next?_of_asking (hhas : ValueStream.hasValue r.cursor = .ok true c)
    (hagain : ValueStream.hasValue c = .ok true c) :
    r.next? = match takeBucket r.statistic c with
      | .ok point c' => .ok (some point) { r with cursor := c', latest := some point }
      | .error fault c' => .error fault { r with cursor := c' } :=
  (next?_congr (hhas.trans hagain.symm)).trans
    (next?_of_hasValue (r := { r with cursor := c }) hagain)

/-- A request for a point is answered by what taking the bucket gives. -/
theorem answer_of_takeBucket (hrequest : request = .nextPoint ∨ request = .next?)
    (hhas : ValueStream.hasValue r.cursor = .ok true c)
    (hagain : ValueStream.hasValue c = .ok true c) :
    (∀ point c', takeBucket r.statistic c = .ok point c' →
      r.answer request = .ok (.point (some point)) ∧ (r.handle request).cursor = c') ∧
    ∀ fault c', takeBucket r.statistic c = .error fault c' →
      r.answer request = .error fault ∧ (r.handle request).cursor = c' := by
  have hpoint := nextPoint_of_hasValue hhas
  have hnext := next?_of_asking hhas hagain
  constructor
  · intro point c' htake
    rw [htake] at hpoint hnext
    rcases hrequest with rfl | rfl
    · rw [answer, handle, after_of_ok hpoint, hpoint]
      exact ⟨rfl, rfl⟩
    · rw [answer, handle, after_of_ok hnext, hnext]
      exact ⟨rfl, rfl⟩
  · intro fault c' htake
    rw [htake] at hpoint hnext
    rcases hrequest with rfl | rfl
    · rw [answer, handle, after_of_error hpoint, hpoint]
      exact ⟨rfl, rfl⟩
    · rw [answer, handle, after_of_error hnext, hnext]
      exact ⟨rfl, rfl⟩

/-- A request gives no point if the cursor has no value or cannot tell. -/
theorem answer_of_no_value (hrequest : ∀ time, request ≠ .seek time)
    (hhas : ValueStream.hasValue r.cursor = .ok false c) :
    Answer.points [r.answer request] = [] ∧ (r.handle request).cursor = c := by
  obtain ⟨fault, hpoint⟩ := nextPoint_of_not_hasValue hhas
  have hnext := Walk.next?_of_not_hasValue hhas
  have hmore : r.hasNext = .ok false { r with cursor := c } := onCursor_of_ok hhas
  cases request with
  | hasNext =>
    rw [answer, handle, after_of_ok hmore, hmore]
    exact ⟨rfl, rfl⟩
  | nextPoint =>
    rw [answer, handle, after_of_error hpoint, hpoint]
    exact ⟨rfl, rfl⟩
  | next? =>
    rw [answer, handle, after_of_ok hnext, hnext]
    exact ⟨rfl, rfl⟩
  | seek time => exact absurd rfl (hrequest time)

theorem answer_of_hasValue_error (hrequest : ∀ time, request ≠ .seek time)
    (hhas : ValueStream.hasValue r.cursor = .error fault c) :
    Answer.points [r.answer request] = [] ∧ (r.handle request).cursor = c := by
  have hpoint := nextPoint_of_hasValue_error hhas
  have hnext := next?_of_hasValue_error hhas
  have hmore : r.hasNext = .error fault { r with cursor := c } := onCursor_of_error hhas
  cases request with
  | hasNext =>
    rw [answer, handle, after_of_error hmore, hmore]
    exact ⟨rfl, rfl⟩
  | nextPoint =>
    rw [answer, handle, after_of_error hpoint, hpoint]
    exact ⟨rfl, rfl⟩
  | next? =>
    rw [answer, handle, after_of_error hnext, hnext]
    exact ⟨rfl, rfl⟩
  | seek time => exact absurd rfl (hrequest time)

/-! ### Outcomes -/

/-- The cursor says that it has no value, or fails whenever it is asked. -/
def Idles (c : σ) : Prop := Ended c ∨ ∃ fault, Halted fault c

/-- What a request does with the point that it completes: the point is given out if the next bucket
can be opened, and else the fault is, and the cursor is left without a value.  A request that
completes no point gives none. -/
inductive Outcome (InCourse : σ → Prop) (r : Resampler σ) (request : Request) : Prop
  | delivered {point : Point} {c c' : σ} (hcompletes : r.completes? request = some (point, c))
    (hopen : BucketCursor.openNext c = .ok () c')
    (hanswer : r.answer request = .ok (.point (some point)))
    (hcourse : InCourse (r.handle request).cursor)
  | lost {point : Point} {c c' : σ} {fault : Fault}
    (hcompletes : r.completes? request = some (point, c))
    (hopen : BucketCursor.openNext c = .error fault c') (hanswer : r.answer request = .error fault)
    (hcourse : InCourse (r.handle request).cursor) (hidles : Idles (r.handle request).cursor)
  | nothing (hcompletes : r.completes? request = none)
    (hanswer : Answer.points [r.answer request] = [])
    (hcourse : InCourse (r.handle request).cursor)

theorem Outcome.inCourse {InCourse : σ → Prop} (h : Outcome InCourse r request) :
    InCourse (r.handle request).cursor := by
  cases h with
  | delivered hcompletes hopen hanswer hcourse => exact hcourse
  | lost hcompletes hopen hanswer hcourse hidles => exact hcourse
  | nothing hcompletes hanswer hcourse => exact hcourse

section Course

variable {Fresh Begun : σ → Prop} {Barred Blocked : Fault → σ → Prop}
  (h : Course Fresh Begun Barred Blocked)

include h

/-- A request for a point reads the open bucket and then opens the next one. -/
theorem outcome_of_value (hrequest : request = .nextPoint ∨ request = .next?)
    (hhas : ValueStream.hasValue r.cursor = .ok true c) (hbegun : Begun c)
    (hagain : ValueStream.hasValue c = .ok true c) :
    Outcome (fun c => Fresh c ∨ Begun c) r request := by
  obtain ⟨htaken, hfailed⟩ := answer_of_takeBucket hrequest hhas hagain
  have hread := h.readBucket_cases hbegun hagain r.statistic
  have hcompletes : r.completes? request = r.finished? := by
    rcases hrequest with rfl | rfl
    · rfl
    · rfl
  rw [finished?_of_hasValue hhas] at hcompletes
  rcases hbucket : readBucket r.statistic c with ⟨point, c₁⟩ | ⟨fault, c₁⟩
  · rw [hbucket] at hread hcompletes
    obtain ⟨hbegun₁, hended, -⟩ := hread
    have htake := takeBucket_of_ok hbucket
    have hnext := h.openNext hbegun₁ hended
    rcases hopen : BucketCursor.openNext c₁ with ⟨_, c'⟩ | ⟨fault, c'⟩
    · rw [hopen] at htake hnext
      obtain ⟨hanswer, hstate⟩ := htaken point c' htake
      exact .delivered hcompletes hopen hanswer (hstate ▸ Or.inr hnext.1)
    · rw [hopen] at htake hnext
      obtain ⟨hanswer, hstate⟩ := hfailed fault c' htake
      exact .lost hcompletes hopen hanswer (hstate ▸ Or.inr hnext.1)
        (hstate ▸ hnext.2.imp_right fun hhalted => ⟨fault, hhalted⟩)
  · rw [hbucket] at hread hcompletes
    obtain ⟨hanswer, hstate⟩ := hfailed fault c₁ (takeBucket_of_error hbucket)
    refine .nothing hcompletes ?_ (hstate ▸ Or.inr hread.1)
    rw [hanswer]
    rfl

/-- Every request but a jump has such an outcome. -/
theorem outcome (hr : Fresh r.cursor ∨ Begun r.cursor) (hrequest : ∀ time, request ≠ .seek time) :
    Outcome (fun c => Fresh c ∨ Begun c) r request := by
  rcases h.ask hr with ⟨more, c, hhas, hbegun, hagain⟩ | ⟨fault, c, hhas, hcourse⟩
  · have hmore : r.hasNext = .ok more { r with cursor := c } := onCursor_of_ok hhas
    cases more with
    | false =>
      obtain ⟨hanswer, hstate⟩ := answer_of_no_value hrequest hhas
      refine .nothing ?_ hanswer (hstate ▸ Or.inr hbegun)
      cases request with
      | hasNext => rfl
      | nextPoint => exact finished?_of_not_hasValue hhas
      | next? => exact finished?_of_not_hasValue hhas
      | seek time => rfl
    | true =>
      cases request with
      | hasNext =>
        have hstate : (r.handle .hasNext).cursor = c := by rw [handle, after_of_ok hmore]
        refine .nothing rfl ?_ (hstate ▸ Or.inr hbegun)
        rw [answer, hmore]
        rfl
      | nextPoint => exact outcome_of_value h (Or.inl rfl) hhas hbegun hagain
      | next? => exact outcome_of_value h (Or.inr rfl) hhas hbegun hagain
      | seek time => exact absurd rfl (hrequest time)
  · obtain ⟨hanswer, hstate⟩ := answer_of_hasValue_error hrequest hhas
    refine .nothing ?_ hanswer (hstate ▸ hcourse)
    have hfinished : r.finished? = none := finished?_of_hasValue_error hhas
    cases request with
    | hasNext => rfl
    | nextPoint => exact hfinished
    | next? => exact hfinished
    | seek time => rfl

/-- Whatever is asked, the cursor goes on in its course. -/
theorem inCourse_handleAll (requests : List Request) : ∀ {r : Resampler σ},
    Fresh r.cursor ∨ Begun r.cursor →
      Fresh (r.handleAll requests).cursor ∨ Begun (r.handleAll requests).cursor := by
  induction requests with
  | nil => exact fun hr => hr
  | cons request rest ih =>
    intro r hr
    refine ih (r := r.handle request) ?_
    cases request with
    | hasNext => exact (outcome h hr fun time heq => by cases heq).inCourse
    | nextPoint => exact (outcome h hr fun time heq => by cases heq).inCourse
    | next? => exact (outcome h hr fun time heq => by cases heq).inCourse
    | seek time => exact (keeps_onCursor (h.seek time) r.statistic r ⟨hr, rfl⟩).1

end Course

/-! ### All requests -/

/-- The request gives out the point that it completes if the cursor can then open the next bucket.
If it cannot, the request fails for the same reason, and no request from it on gives a point. -/
def GivesOrLoses (r : Resampler σ) (request : Request) (back : List Request) (point : Point)
    (c : σ) : Prop :=
  match BucketCursor.openNext c with
  | .ok _ _ => r.answer request = .ok (.point (some point))
  | .error fault _ =>
    r.answer request = .error fault ∧ Answer.points (r.answers (request :: back)) = []

/-- A cursor without a value gives no point and completes none, and stays so unless it jumps. -/
theorem answer_of_idles (hrequest : ∀ time, request ≠ .seek time) (hr : Idles r.cursor) :
    Answer.points [r.answer request] = [] ∧ r.completes? request = none ∧
      (r.handle request).cursor = r.cursor := by
  rcases hr with hended | ⟨fault, hhalted⟩
  · obtain ⟨hanswer, hstate⟩ := answer_of_no_value hrequest hended
    refine ⟨hanswer, ?_, hstate⟩
    cases request with
    | hasNext => rfl
    | nextPoint => exact finished?_of_not_hasValue hended
    | next? => exact finished?_of_not_hasValue hended
    | seek time => rfl
  · obtain ⟨hanswer, hstate⟩ := answer_of_hasValue_error hrequest hhalted
    refine ⟨hanswer, ?_, hstate⟩
    cases request with
    | hasNext => rfl
    | nextPoint => exact finished?_of_hasValue_error hhalted
    | next? => exact finished?_of_hasValue_error hhalted
    | seek time => rfl

/-- A cursor without a value gives no points and completes none, until it jumps. -/
theorem points_of_idles {requests : List Request} (hrequests : ∀ time, .seek time ∉ requests) :
    ∀ {r : Resampler σ}, Idles r.cursor →
      Answer.points (r.answers requests) = [] ∧ r.completed requests = [] := by
  induction requests with
  | nil => exact fun _ => ⟨rfl, rfl⟩
  | cons request rest ih =>
    intro r hr
    have hrequest : ∀ time, request ≠ .seek time :=
      fun time heq => hrequests time (heq ▸ List.mem_cons_self)
    obtain ⟨hanswer, hcompletes, hstate⟩ := answer_of_idles hrequest hr
    obtain ⟨hpoints, hcompleted⟩ := ih
      (fun time hmem => hrequests time (List.mem_cons_of_mem _ hmem))
      (r := r.handle request) (hstate ▸ hr)
    constructor
    · rw [answers, Answer.points_cons, hanswer, hpoints]
      rfl
    · rw [completed, hcompletes, hcompleted]
      rfl

section Course

variable {Fresh Begun : σ → Prop} {Barred Blocked : Fault → σ → Prop}
  (h : Course Fresh Begun Barred Blocked)

include h

/-- At most the last point that requests complete is missing among those that they give. -/
theorem completed_eq {requests : List Request} (hrequests : ∀ time, .seek time ∉ requests) :
    ∀ {r : Resampler σ}, Fresh r.cursor ∨ Begun r.cursor → ∃ lost : Option Point,
      r.completed requests = Answer.points (r.answers requests) ++ lost.toList := by
  induction requests with
  | nil => exact fun _ => ⟨none, rfl⟩
  | cons request rest ih =>
    intro r hr
    have hrest : ∀ time, .seek time ∉ rest :=
      fun time hmem => hrequests time (List.mem_cons_of_mem _ hmem)
    rw [completed, answers, Answer.points_cons]
    cases outcome h hr fun time heq => hrequests time (heq ▸ List.mem_cons_self) with
    | delivered hcompletes hopen hanswer hcourse =>
      obtain ⟨lost, hlost⟩ := ih hrest hcourse
      refine ⟨lost, ?_⟩
      rw [hcompletes, hanswer, hlost, List.append_assoc]
      rfl
    | @lost point c c' fault hcompletes hopen hanswer hcourse hidles =>
      obtain ⟨hpoints, hcompleted⟩ := points_of_idles hrest hidles
      refine ⟨some point, ?_⟩
      rw [hcompletes, hanswer, hpoints, hcompleted]
      rfl
    | nothing hcompletes hanswer hcourse =>
      obtain ⟨lost, hlost⟩ := ih hrest hcourse
      refine ⟨lost, ?_⟩
      rw [hcompletes, hanswer, hlost]
      rfl

/-- A point that is completed is given out at once, or the next bucket cannot be opened and no point
is given out until a jump. -/
theorem givesOrLoses_of_completes {back : List Request} {point : Point}
    (hr : Fresh r.cursor ∨ Begun r.cursor) (hrequests : ∀ time, .seek time ∉ request :: back)
    (hcompletes : r.completes? request = some (point, c)) :
    r.GivesOrLoses request back point c := by
  rw [GivesOrLoses]
  have hback : ∀ time, .seek time ∉ back :=
    fun time hmem => hrequests time (List.mem_cons_of_mem _ hmem)
  cases outcome h hr fun time heq => hrequests time (heq ▸ List.mem_cons_self) with
  | delivered hcompletes' hopen hanswer hcourse =>
    obtain ⟨rfl, rfl⟩ := Prod.mk.inj (Option.some.inj (hcompletes.symm.trans hcompletes'))
    rw [hopen]
    exact hanswer
  | lost hcompletes' hopen hanswer hcourse hidles =>
    obtain ⟨rfl, rfl⟩ := Prod.mk.inj (Option.some.inj (hcompletes.symm.trans hcompletes'))
    rw [hopen]
    refine ⟨hanswer, ?_⟩
    rw [answers, Answer.points_cons, hanswer, (points_of_idles hback hidles).1]
    rfl
  | nothing hcompletes' hanswer hcourse =>
    exact absurd (hcompletes.symm.trans hcompletes') (by simp)

end Course

end Resampler

/-! ### Resamplers that were built -/

namespace AnyResampler

variable {feed : Feed} {interval : Interval} {statistic : Statistic} {zone : Zone}
  {options : RateOptions} {b : AnyResampler}

theorem exists_course (hbuild : build feed interval statistic zone options = .ok b) :
    ∃ (Fresh Begun : b.shape.State → Prop) (Barred Blocked : Fault → b.shape.State → Prop),
      Course Fresh Begun Barred Blocked ∧ Fresh b.resampler.cursor := by
  cases built hbuild with
  | runs hunit hcounter => exact ⟨_, _, _, _, Runs.course, rfl⟩
  | grid hunit hmake => exact ⟨_, _, _, _, Grid.course, Grid.phase_of_make hmake⟩
  | calendar unit hunit hmake => exact ⟨_, _, _, _, CalendarCursor.course, rfl⟩

/-- Whatever was asked before, and whatever the feed is like: of the points that requests complete
up to the next jump, all are given out but perhaps the last one.  It is missing exactly if the
bucket behind it cannot be opened.  The request that completed it then fails for this reason, and no
later one gives a point. -/
theorem lost_when_next_fails (hbuild : build feed interval statistic zone options = .ok b)
    (earlier : List Request) {requests : List Request} (hrequests : ∀ time, .seek time ∉ requests) :
    (∃ lost : Option Point, (b.resampler.handleAll earlier).completed requests
      = Answer.points ((b.resampler.handleAll earlier).answers requests) ++ lost.toList) ∧
    ∀ front request back point c, requests = front ++ request :: back →
      ((b.resampler.handleAll earlier).handleAll front).completes? request = some (point, c) →
      ((b.resampler.handleAll earlier).handleAll front).GivesOrLoses request back point c := by
  obtain ⟨Fresh, Begun, Barred, Blocked, hcourse, hfresh⟩ := exists_course hbuild
  have hearlier := Resampler.inCourse_handleAll hcourse earlier (Or.inl hfresh)
  refine ⟨Resampler.completed_eq hcourse hrequests hearlier, ?_⟩
  rintro front request back point c rfl hcompletes
  refine Resampler.givesOrLoses_of_completes hcourse
    (Resampler.inCourse_handleAll hcourse front hearlier) (fun time hmem => ?_) hcompletes
  exact hrequests time (List.mem_append_right front hmem)

/-- Sums over seconds, where the second sample is at the greatest word and has no bucket that words
can hold. -/
def besideLimit : Resampler Grid :=
  ⟨⟨.ofSamples [⟨0, .whole 1⟩, ⟨9223372036854775807, .whole 2⟩], 1000, 0, none, 1000, .unread,
    by decide⟩, .sum, .fixed 1000, none⟩

/-- The first bucket is complete when the second one shows to be out of range. -/
theorem lost_when_next_fails_of_two :
    ∃ b, build (.ofSamples [⟨0, .whole 1⟩, ⟨9223372036854775807, .whole 2⟩]) (.fixed 1000) .sum .utc
        .plain = .ok b ∧
      (∀ time, .seek time ∉ [Request.next?, .hasNext, .nextPoint]) ∧
      (∃ lost : Option Point,
        (b.resampler.handleAll [.hasNext]).completed [.next?, .hasNext, .nextPoint]
          = Answer.points ((b.resampler.handleAll [.hasNext]).answers [.next?, .hasNext, .nextPoint])
            ++ lost.toList) ∧
      ∀ front request back point c, [Request.next?, .hasNext, .nextPoint] = front ++ request :: back →
        ((b.resampler.handleAll [.hasNext]).handleAll front).completes? request = some (point, c) →
        ((b.resampler.handleAll [.hasNext]).handleAll front).GivesOrLoses request back point c := by
  have hbuild : build (.ofSamples [⟨0, .whole 1⟩, ⟨9223372036854775807, .whole 2⟩]) (.fixed 1000)
      .sum .utc .plain = .ok ⟨.grid, besideLimit⟩ := rfl
  have hrequests : ∀ time, .seek time ∉ [Request.next?, .hasNext, .nextPoint] := by simp
  exact ⟨_, hbuild, hrequests, lost_when_next_fails hbuild [.hasNext] hrequests⟩

/-- The first request completes the first bucket, and neither it nor any requests after it but jumps
give its point. -/
theorem completed_point_never_given :
    ∃ b, build (.ofSamples [⟨0, .whole 1⟩, ⟨9223372036854775807, .whole 2⟩]) (.fixed 1000) .sum .utc
        .plain = .ok b ∧
      ¬ ∀ point ∈ b.resampler.completed [.next?], ∃ later, (∀ time, .seek time ∉ later) ∧
        point ∈ Answer.points (b.resampler.answers (.next? :: later)) := by
  refine ⟨⟨.grid, besideLimit⟩, rfl, fun hall => ?_⟩
  have hcompleted : (besideLimit.completed [.next?]).map Point.time = [0] := by decide +kernel
  obtain ⟨point, hmem, -⟩ := List.mem_map.mp (hcompleted ▸ List.mem_cons_self)
  obtain ⟨later, hlater, hgiven⟩ := hall point hmem
  have hidles : Resampler.Idles (besideLimit.handle .next?).cursor := Or.inl rfl
  have hanswer : Answer.points [besideLimit.answer .next?] = [] := rfl
  have hpoints : Answer.points (besideLimit.answers (.next? :: later)) = [] := by
    rw [Resampler.answers, Answer.points_cons, hanswer, (Resampler.points_of_idles hlater hidles).1]
    rfl
  exact absurd (hpoints ▸ hgiven) List.not_mem_nil

end AnyResampler

end TimeBuckets
