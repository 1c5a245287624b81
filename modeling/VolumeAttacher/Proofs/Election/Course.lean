import Mathlib.Logic.Relation
import VolumeAttacher.Proofs.Election.Entitlement

/-!
# The course of an election

One candidate with a procedure that may do as it likes and a lock that may answer as it likes. What
is seen of the candidate falls into reigns. Each begins when the candidate seeks the lock and ends
when it has given the lock up or lost it. The procedure is invoked once in each, after a record of
the candidate was written, and only while the candidate says that it holds the lock. A run that
breaks down stays what it was, without its procedure.
-/

namespace VolumeAttacher

/-- Something that is seen of a candidate. -/
inductive Mark where
  | published (leadership : Leadership)
  /-- The lock wrote a record for the candidate. -/
  | written (record : Record)
  /-- The procedure is invoked. -/
  | began
  /-- The procedure is at an end, by itself or because it was dropped. -/
  | ended
  /-- The run is over. -/
  | returned
  deriving DecidableEq

/-- A time in which a candidate got the lock, held it, and gave it up or lost it. -/
structure Reign where
  /-- The record by which the lock was got. -/
  claim : Record
  /-- The records by which it was kept. -/
  renewals : List Record
  /-- The record by which it was given up. -/
  release : Option Record

/-- How far a candidate is after its reigns. -/
inductive Prospect where
  /-- It does not seek the lock. -/
  | idle
  | seeking
  /-- It holds the lock, and its procedure runs. -/
  | leading (claim : Record) (renewals : List Record)
  /-- It holds the lock, and its procedure is at an end. -/
  | leaving (claim : Record) (renewals : List Record)
  /-- Its run ended without the lock. -/
  | withdrawn
  /-- Its run ended after a reign. -/
  | retired

namespace Prospect

/-- What is seen of a candidate after its reigns. -/
def marks : Prospect → List Mark
  | .idle => []
  | .seeking => [.published .acquiring]
  | .leading claim renewals =>
    [.published .acquiring, .written claim, .published .held, .began] ++ renewals.map .written
  | .leaving claim renewals =>
    [.published .acquiring, .written claim, .published .held, .began] ++ renewals.map .written ++
      [.ended]
  | .withdrawn => [.published .acquiring, .published .unheld, .returned]
  | .retired => [.returned]

/-- What a candidate published last. -/
def leadership : Prospect → Leadership
  | .idle | .withdrawn => .unheld
  | .seeking => .acquiring
  | .leading _ _ | .leaving _ _ => .held
  | .retired => .released

/-- The procedure runs. -/
def isLeading : Prospect → Bool
  | .leading _ _ => true
  | .idle | .seeking | .leaving _ _ | .withdrawn | .retired => false

end Prospect

/-- What is seen of a reign. -/
def Reign.marks (reign : Reign) : List Mark :=
  (Prospect.leaving reign.claim reign.renewals).marks ++ reign.release.toList.map .written ++
    [.published .released]

/-- What is seen of a candidate. At first it does not hold the lock. -/
def chronicle (reigns : List Reign) (prospect : Prospect) : List Mark :=
  .published .unheld :: (reigns.flatMap Reign.marks ++ prospect.marks)

section Chronicle

variable (reigns : List Reign) (claim record : Record) (renewals : List Record)

theorem chronicle_seeking :
    chronicle reigns .seeking = chronicle reigns .idle ++ [.published .acquiring] := by
  simp [chronicle, Prospect.marks]

theorem chronicle_withdrawn :
    chronicle reigns .withdrawn =
      chronicle reigns .seeking ++ [.published .unheld] ++ [.returned] := by
  simp [chronicle, Prospect.marks]

theorem chronicle_retired :
    chronicle reigns .retired = chronicle reigns .idle ++ [.returned] := by
  simp [chronicle, Prospect.marks]

theorem chronicle_leading :
    chronicle reigns (.leading claim []) =
      chronicle reigns .seeking ++ [.written claim] ++ [.published .held] ++ [.began] := by
  simp [chronicle, Prospect.marks]

theorem chronicle_renewed :
    chronicle reigns (.leading claim (renewals ++ [record])) =
      chronicle reigns (.leading claim renewals) ++ [.written record] := by
  simp [chronicle, Prospect.marks]

theorem chronicle_leaving :
    chronicle reigns (.leaving claim renewals) =
      chronicle reigns (.leading claim renewals) ++ [.ended] := by
  simp [chronicle, Prospect.marks]

theorem chronicle_append_reign (release : Option Record) :
    chronicle (reigns ++ [⟨claim, renewals, release⟩]) .idle =
      chronicle reigns (.leaving claim renewals) ++ release.toList.map .written ++
        [.published .released] := by
  simp [chronicle, Prospect.marks, Reign.marks]

end Chronicle

/-- A candidate, the call whose answer it waits for, whether its procedure runs, and what was seen
of it. -/
structure Course where
  candidacy : Candidacy
  pending : Option LockCall
  isWorking : Bool
  marks : List Mark

/-- The record that a call has written, if the lock says so. -/
def LockCall.written? (call : LockCall) : LockReply → Option Record
  | .written (.ok ()) => call.record?
  | .written (.error _) | .got _ => none

theorem LockCall.append_of_unwritten
    {call : LockCall}
    {reply : LockReply}
    (unwritten : call.written? reply = none)
    (marks : List Mark) :
    marks ++ (call.written? reply).toList.map .written = marks := by
  rw [unwritten]
  exact List.append_nil marks

namespace Attempt

variable {candidate : Candidate} {observed observed' : Option Observation} {attempt : Attempt}
  {now : Moment} {reply : LockReply} {call : LockCall} {next : Next}

/-- An attempt that succeeds had the candidate's record written. -/
theorem exists_written?_of_ended
    (awaits : attempt.Awaits call)
    (claims : attempt.Claims candidate)
    (answer : attempt.answer candidate observed now reply = (observed', .ended true)) :
    ∃ desired, call.written? reply = some desired ∧ desired.holder = candidate.identity := by
  obtain ⟨desired, rfl | rfl, rfl, -⟩ := eq_of_answer_ended_true answer
  · obtain rfl : call = .create desired := awaits
    exact ⟨desired, rfl, claims.holder⟩
  · obtain ⟨version, rfl⟩ := awaits
    exact ⟨desired, rfl, claims.holder⟩

/-- An attempt that goes on or fails had nothing written. -/
theorem written?_eq_none
    (awaits : attempt.Awaits call)
    (answer : attempt.answer candidate observed now reply = (observed', next))
    (unfinished : next ≠ .ended true) :
    call.written? reply = none := by
  obtain _ | (_ | _) := reply
  · rfl
  · rfl
  · cases attempt with
    | reading began =>
      obtain rfl : call = .get := awaits
      rfl
    | creating desired | updating desired => exact absurd (congrArg Prod.snd answer).symm unfinished

/-- An attempt that goes on waits for the answer to its next call. -/
theorem awaits_of_answer_ask
    {attempt' : Attempt}
    (answer : attempt.answer candidate observed now reply = (observed', .ask attempt' call)) :
    attempt'.Awaits call ∧ attempt'.Claims candidate := by
  obtain ⟨desired, rfl, rfl, claim, -⟩ | ⟨desired, current, rfl, rfl, claim, -⟩ :=
    eq_of_answer_ask answer
  · exact ⟨rfl, claim⟩
  · exact ⟨⟨current.version, rfl⟩, claim⟩

end Attempt

namespace Course

/-- A candidate that did not start. -/
def opening : Course := ⟨.idle, none, false, [.published .unheld]⟩

/-- Something more is seen. -/
def note (course : Course) (mark : Mark) : Course :=
  { course with marks := course.marks ++ [mark] }

/-- What the candidate does. -/
def act (course : Course) : ElectionAction → Course
  | .publish leadership => course.note (.published leadership)
  | .ask call => { course with pending := some call }
  | .abandonCall => { course with pending := none }
  | .startWork => { course.note .began with isWorking := true }
  | .cancelWork => course
  | .dropWork => { course.note .ended with isWorking := false }
  | .finish => course.note .returned
  | .breakDown => course

/-- The candidate goes through a step. -/
def perform (course : Course) (step : Candidacy.Step) : Course :=
  step.2.foldl act { course with candidacy := step.1 }

/-- What an event changes before the candidate does anything. -/
def receive (course : Course) : ElectionEvent → Course
  | .reply reply =>
    { course with
        pending := none
        marks := course.marks ++
          (course.pending.bind (·.written? reply)).toList.map .written }
  | .workEnded => { course.note .ended with isWorking := false }
  | .start | .tick | .shutDown => course

/-- The lock answers if something was asked, and the procedure ends if it runs. -/
def Admits (course : Course) : ElectionEvent → Prop
  | .reply _ => course.pending.isSome = true
  | .workEnded => course.isWorking = true
  | .start | .tick | .shutDown => True

/-- The course after an event. -/
def after (candidate : Candidate) (now : Moment) (event : ElectionEvent) (course : Course) :
    Course :=
  (course.receive event).perform (course.candidacy.step candidate now event)

/-- One step of a course, at any moment. -/
def Step (candidate : Candidate) (course next : Course) : Prop :=
  ∃ now event, course.Admits event ∧ next = course.after candidate now event

/-- What a candidate that did not start may come to. -/
def Reachable (candidate : Candidate) (course : Course) : Prop :=
  Relation.ReflTransGen (Step candidate) opening course

section Perform

variable {candidacy : Candidacy} (course : Course)

@[simp] theorem perform_after (actions : List ElectionAction) (step : Candidacy.Step) :
    course.perform (Candidacy.after actions step) = (actions.foldl act course).perform step := by
  have commutes (course : Course) (candidacy : Candidacy) (action : ElectionAction) :
      act { course with candidacy } action = { course.act action with candidacy } := by
    cases action <;> rfl
  unfold perform Candidacy.after
  rw [List.foldl_append]
  congr 1
  induction actions generalizing course with
  | nil => rfl
  | cons action rest inductionHypothesis =>
    rw [List.foldl_cons, List.foldl_cons, ← inductionHypothesis, commutes]

@[simp] theorem perform_publish
    (leadership : Leadership)
    (next : Candidacy → Candidacy.Step) :
    course.perform (candidacy.publish leadership next) =
      (course.note (.published leadership)).perform (next { candidacy with leadership }) :=
  course.perform_after _ _

end Perform

/-- How far a candidate is after its reigns, told by its phase. -/
inductive Stage (candidate : Candidate) :
    Candidacy → Option LockCall → Bool → List Reign → Prospect → Prop
  | idle {observed shutDown} :
    Stage candidate ⟨.idle, .unheld, observed, shutDown⟩ none false [] .idle
  | acquiring {attempt observed shutDown call reigns}
      (awaits : attempt.Awaits call)
      (claims : attempt.Claims candidate) :
    Stage candidate ⟨.acquiring attempt, .acquiring, observed, shutDown⟩ (some call) false reigns
      .seeking
  | pausing {wake observed shutDown reigns} :
    Stage candidate ⟨.pausing wake, .acquiring, observed, shutDown⟩ none false reigns .seeking
  | resting {wake observed shutDown reigns claim renewals}
      (own : claim.holder = candidate.identity) :
    Stage candidate ⟨.resting wake, .held, observed, shutDown⟩ none true reigns
      (.leading claim renewals)
  | renewing {attempt deadline observed shutDown call reigns claim renewals}
      (own : claim.holder = candidate.identity)
      (awaits : attempt.Awaits call)
      (claims : attempt.Claims candidate) :
    Stage candidate ⟨.renewing attempt deadline, .held, observed, shutDown⟩ (some call) true reigns
      (.leading claim renewals)
  | retrying {wake deadline observed shutDown reigns claim renewals}
      (own : claim.holder = candidate.identity) :
    Stage candidate ⟨.retrying wake deadline, .held, observed, shutDown⟩ none true reigns
      (.leading claim renewals)
  | stopping {ending deadline observed shutDown reigns claim renewals}
      (own : claim.holder = candidate.identity) :
    Stage candidate ⟨.stopping ending deadline, .held, observed, shutDown⟩ none true reigns
      (.leading claim renewals)
  | releasing {release observed shutDown call reigns claim renewals}
      (own : claim.holder = candidate.identity)
      (awaits : (Phase.releasing release).Awaits call) :
    Stage candidate ⟨.releasing release, .held, observed, shutDown⟩ (some call) false reigns
      (.leaving claim renewals)
  | withdrawn {observed reigns} :
    Stage candidate ⟨.done, .unheld, observed, true⟩ none false reigns .withdrawn
  | retired {observed shutDown reigns}
      (reigned : reigns ≠ []) :
    Stage candidate ⟨.done, .released, observed, shutDown⟩ none false reigns .retired
  /-- The run broke down while the candidate sought the lock. -/
  | collapsed {observed shutDown reigns} :
    Stage candidate ⟨.done, .acquiring, observed, shutDown⟩ none false reigns .seeking
  /-- The run broke down while the candidate held the lock, and its procedure was dropped. -/
  | brokenDown {observed shutDown reigns claim renewals}
      (own : claim.holder = candidate.identity) :
    Stage candidate ⟨.done, .held, observed, shutDown⟩ none false reigns (.leaving claim renewals)

/-- What is seen of a candidate agrees with its phase. -/
structure Fits
    (candidate : Candidate)
    (reigns : List Reign)
    (prospect : Prospect)
    (course : Course) : Prop where
  marks : course.marks = chronicle reigns prospect
  claims : ∀ reign ∈ reigns, reign.claim.holder = candidate.identity
  stage : Stage candidate course.candidacy course.pending course.isWorking reigns prospect

/-- A course is a number of reigns and what follows them. -/
def Sound (candidate : Candidate) (course : Course) : Prop :=
  ∃ reigns prospect, course.Fits candidate reigns prospect

section Deeds

variable {candidate : Candidate} {reigns : List Reign} {now : Moment}
  {phase : Phase} {leadership : Leadership} {observed : Option Observation} {shutDown : Bool}
  {claim : Record} {renewals : List Record}

/-- The candidate withdraws without the lock. -/
theorem sound_withdraw (claims : ∀ reign ∈ reigns, reign.claim.holder = candidate.identity) :
    Sound candidate (perform ⟨.idle, none, false, chronicle reigns .seeking⟩
      (Candidacy.mk phase leadership observed true).withdraw) :=
  ⟨reigns, .withdrawn, (chronicle_withdrawn reigns).symm, claims, .withdrawn⟩

theorem sound_tryAcquire (claims : ∀ reign ∈ reigns, reign.claim.holder = candidate.identity) :
    Sound candidate (perform ⟨.idle, none, false, chronicle reigns .seeking⟩
      ((Candidacy.mk phase .acquiring observed shutDown).tryAcquire now)) :=
  ⟨reigns, .seeking, rfl, claims, .acquiring rfl trivial⟩

/-- The candidate seeks the lock after its reigns. -/
theorem sound_acquire (claims : ∀ reign ∈ reigns, reign.claim.holder = candidate.identity) :
    Sound candidate (perform ⟨.idle, none, false, chronicle reigns .idle⟩
      ((Candidacy.mk phase leadership observed shutDown).acquire now)) := by
  unfold Candidacy.acquire
  rw [perform_publish, note, ← chronicle_seeking]
  cases shutDown with
  | true => exact sound_withdraw claims
  | false => exact sound_tryAcquire claims

theorem sound_pause (claims : ∀ reign ∈ reigns, reign.claim.holder = candidate.identity) :
    Sound candidate (perform ⟨.idle, none, false, chronicle reigns .seeking⟩
      ((Candidacy.mk phase .acquiring observed shutDown).pause candidate now)) := by
  cases shutDown with
  | true => exact sound_withdraw claims
  | false => exact ⟨reigns, .seeking, rfl, claims, .pausing⟩

/-- The procedure is told to stop. -/
theorem sound_stop
    {ending : Ending}
    (claims : ∀ reign ∈ reigns, reign.claim.holder = candidate.identity)
    (own : claim.holder = candidate.identity) :
    Sound candidate (perform ⟨.idle, none, true, chronicle reigns (.leading claim renewals)⟩
      ((Candidacy.mk phase .held observed shutDown).stop candidate ending now)) :=
  ⟨reigns, .leading claim renewals, rfl, claims, .stopping own⟩

theorem sound_rest
    (claims : ∀ reign ∈ reigns, reign.claim.holder = candidate.identity)
    (own : claim.holder = candidate.identity) :
    Sound candidate (perform ⟨.idle, none, true, chronicle reigns (.leading claim renewals)⟩
      ((Candidacy.mk phase .held observed shutDown).rest candidate now)) :=
  ⟨reigns, .leading claim renewals, rfl, claims, .resting own⟩

theorem sound_tryRenew
    {deadline : Nat}
    (claims : ∀ reign ∈ reigns, reign.claim.holder = candidate.identity)
    (own : claim.holder = candidate.identity) :
    Sound candidate (perform ⟨.idle, none, true, chronicle reigns (.leading claim renewals)⟩
      ((Candidacy.mk phase .held observed shutDown).tryRenew now deadline)) :=
  ⟨reigns, .leading claim renewals, rfl, claims, .renewing own rfl trivial⟩

theorem sound_miss
    {deadline : Nat}
    (claims : ∀ reign ∈ reigns, reign.claim.holder = candidate.identity)
    (own : claim.holder = candidate.identity) :
    Sound candidate (perform ⟨.idle, none, true, chronicle reigns (.leading claim renewals)⟩
      ((Candidacy.mk phase .held observed shutDown).miss candidate deadline now)) := by
  unfold Candidacy.miss
  dsimp only
  split
  · exact sound_stop claims own
  · exact ⟨reigns, .leading claim renewals, rfl, claims, .retrying own⟩

/-- The candidate leads once its record was written. -/
theorem sound_lead
    (claims : ∀ reign ∈ reigns, reign.claim.holder = candidate.identity)
    (own : claim.holder = candidate.identity) :
    Sound candidate
      (perform ⟨.idle, none, false, chronicle reigns .seeking ++ [.written claim]⟩
        ((Candidacy.mk phase .acquiring observed shutDown).lead candidate now)) := by
  have leads : act (note ⟨.idle, none, false, chronicle reigns .seeking ++ [.written claim]⟩
      (.published .held)) .startWork =
        ⟨.idle, none, true, chronicle reigns (.leading claim [])⟩ := by
    rw [chronicle_leading]
    rfl
  unfold Candidacy.lead
  rw [perform_publish, perform_after, List.foldl_cons, leads, List.foldl_nil]
  cases shutDown with
  | true => exact sound_stop claims own
  | false => exact sound_rest claims own

/-- The candidate gives up the lock after its procedure came to an end. -/
theorem sound_release
    (claims : ∀ reign ∈ reigns, reign.claim.holder = candidate.identity)
    (own : claim.holder = candidate.identity) :
    Sound candidate
      (perform ⟨.idle, none, false, chronicle reigns (.leading claim renewals) ++ [.ended]⟩
        (Candidacy.mk phase .held observed shutDown).release) :=
  ⟨reigns, .leaving claim renewals, (chronicle_leaving reigns claim renewals).symm, claims,
    .releasing own rfl⟩

theorem forall_mem_concat_reign
    {release : Option Record}
    (claims : ∀ reign ∈ reigns, reign.claim.holder = candidate.identity)
    (own : claim.holder = candidate.identity) :
    ∀ reign ∈ reigns ++ [⟨claim, renewals, release⟩], reign.claim.holder = candidate.identity :=
  List.forall_mem_append.mpr ⟨claims, List.forall_mem_singleton.mpr own⟩

/-- The lock was given up, with a record or without. -/
theorem sound_retire
    {release : Option Record}
    (claims : ∀ reign ∈ reigns, reign.claim.holder = candidate.identity)
    (own : claim.holder = candidate.identity) :
    Sound candidate (perform ⟨.idle, none, false,
      chronicle reigns (.leaving claim renewals) ++ release.toList.map .written⟩
        (Candidacy.mk phase leadership observed shutDown).retire) := by
  refine ⟨reigns ++ [⟨claim, renewals, release⟩], .retired, ?_,
    forall_mem_concat_reign claims own, .retired (by simp)⟩
  rw [chronicle_retired, chronicle_append_reign]
  rfl

/-- The procedure came to an end after it was told to stop. -/
theorem sound_stopped
    {ending : Ending}
    (claims : ∀ reign ∈ reigns, reign.claim.holder = candidate.identity)
    (own : claim.holder = candidate.identity) :
    Sound candidate
      (perform ⟨.idle, none, false, chronicle reigns (.leading claim renewals) ++ [.ended]⟩
        ((Candidacy.mk phase .held observed shutDown).stopped ending now)) := by
  cases ending with
  | lost =>
    -- A lock that was lost is not released, so the reign ends without a record.
    have reign := chronicle_append_reign reigns claim renewals none
    rw [Option.toList_none, List.map_nil, List.append_nil, chronicle_leaving] at reign
    unfold Candidacy.stopped
    dsimp only
    rw [perform_publish, note, ← reign]
    exact sound_acquire (forall_mem_concat_reign claims own)
  | shutDown => exact sound_release claims own

end Deeds

/-! ## What happens to the candidate -/

section Events

variable {candidate : Candidate} {reigns : List Reign} {prospect : Prospect} {course : Course}
  {now : Moment}

theorem Fits.start (fits : course.Fits candidate reigns prospect) :
    (course.after candidate now .start).Sound candidate := by
  have sound : course.Sound candidate := ⟨reigns, prospect, fits⟩
  obtain ⟨candidacy, pending, isWorking, marks⟩ := course
  obtain ⟨rfl, claims, stage⟩ := fits
  cases stage with
  | idle => exact sound_acquire claims
  | _ => exact sound

theorem Fits.tick (fits : course.Fits candidate reigns prospect) :
    (course.after candidate now .tick).Sound candidate := by
  have sound : course.Sound candidate := ⟨reigns, prospect, fits⟩
  obtain ⟨candidacy, pending, isWorking, marks⟩ := course
  -- A tick either finds the timer of the phase due or changes nothing.
  have either : candidacy.step candidate now .tick = candidacy.onTimer candidate now ∨
      candidacy.step candidate now .tick = (candidacy, []) := by
    simp only [Candidacy.step]
    split
    · split
      · exact .inl rfl
      · exact .inr rfl
    · exact .inr rfl
  unfold Course.after
  obtain due | early := either
  · rw [due]
    obtain ⟨rfl, claims, stage⟩ := fits
    cases stage with
    | pausing => exact sound_tryAcquire claims
    | resting own => exact sound_tryRenew claims own
    | retrying own => exact sound_tryRenew claims own
    | renewing own => exact sound_miss claims own
    | stopping own => exact sound_stopped claims own
    | _ => exact sound
  · rw [early]
    exact sound

theorem Fits.shutDown (fits : course.Fits candidate reigns prospect) :
    (course.after candidate now .shutDown).Sound candidate := by
  obtain ⟨candidacy, pending, isWorking, marks⟩ := course
  obtain ⟨rfl, claims, stage⟩ := fits
  cases stage with
  | idle => exact ⟨[], .idle, rfl, claims, .idle⟩
  | acquiring awaits own => exact ⟨reigns, .seeking, rfl, claims, .acquiring awaits own⟩
  | pausing => exact sound_withdraw claims
  | resting own | renewing own | retrying own => exact sound_stop claims own
  | stopping own => exact ⟨reigns, _, rfl, claims, .stopping own⟩
  | releasing own awaits => exact ⟨reigns, _, rfl, claims, .releasing own awaits⟩
  | withdrawn => exact ⟨reigns, _, rfl, claims, .withdrawn⟩
  | retired reigned => exact ⟨reigns, _, rfl, claims, .retired reigned⟩
  | collapsed => exact ⟨reigns, _, rfl, claims, .collapsed⟩
  | brokenDown own => exact ⟨reigns, _, rfl, claims, .brokenDown own⟩

theorem Fits.workEnded
    (fits : course.Fits candidate reigns prospect)
    (working : course.isWorking = true) :
    (course.after candidate now .workEnded).Sound candidate := by
  obtain ⟨candidacy, pending, isWorking, marks⟩ := course
  obtain ⟨rfl, claims, stage⟩ := fits
  cases stage with
  | resting own | renewing own | retrying own => exact sound_release claims own
  | stopping own => exact sound_stopped claims own
  | _ => cases working

/-- The answer to a call of an attempt to get the lock. -/
theorem sound_reply_acquiring
    {attempt : Attempt}
    {observed : Option Observation}
    {shutDown : Bool}
    {call : LockCall}
    {reply : LockReply}
    (claims : ∀ reign ∈ reigns, reign.claim.holder = candidate.identity)
    (awaits : attempt.Awaits call)
    (wanted : attempt.Claims candidate) :
    Sound candidate (Course.after candidate now (.reply reply)
      ⟨⟨.acquiring attempt, .acquiring, observed, shutDown⟩, some call, false,
        chronicle reigns .seeking⟩) := by
  simp only [Course.after, receive, Option.bind_some, Candidacy.step, Candidacy.onReply]
  rcases answer : attempt.answer candidate observed now reply with ⟨observed', next⟩
  cases next with
  | ask attempt' call' =>
    have unwritten := Attempt.written?_eq_none awaits answer (by simp)
    obtain ⟨awaits, wanted⟩ := Attempt.awaits_of_answer_ask answer
    rw [LockCall.append_of_unwritten unwritten]
    exact ⟨reigns, .seeking, rfl, claims, .acquiring awaits wanted⟩
  | ended success =>
    cases success with
    | true =>
      obtain ⟨desired, written, own⟩ := Attempt.exists_written?_of_ended awaits wanted answer
      rw [written]
      exact sound_lead claims own
    | false =>
      have unwritten := Attempt.written?_eq_none awaits answer (by simp)
      rw [LockCall.append_of_unwritten unwritten]
      exact sound_pause claims
  | overflow =>
    have unwritten := Attempt.written?_eq_none awaits answer (by simp)
    rw [LockCall.append_of_unwritten unwritten]
    exact ⟨reigns, .seeking, rfl, claims, .collapsed⟩

/-- The answer to a call of an attempt to renew the lock. -/
theorem sound_reply_renewing
    {attempt : Attempt}
    {deadline : Nat}
    {observed : Option Observation}
    {shutDown : Bool}
    {call : LockCall}
    {reply : LockReply}
    {claim : Record}
    {renewals : List Record}
    (claims : ∀ reign ∈ reigns, reign.claim.holder = candidate.identity)
    (own : claim.holder = candidate.identity)
    (awaits : attempt.Awaits call)
    (wanted : attempt.Claims candidate) :
    Sound candidate (Course.after candidate now (.reply reply)
      ⟨⟨.renewing attempt deadline, .held, observed, shutDown⟩, some call, true,
        chronicle reigns (.leading claim renewals)⟩) := by
  simp only [Course.after, receive, Option.bind_some, Candidacy.step, Candidacy.onReply]
  rcases answer : attempt.answer candidate observed now reply with ⟨observed', next⟩
  cases next with
  | ask attempt' call' =>
    have unwritten := Attempt.written?_eq_none awaits answer (by simp)
    obtain ⟨awaits, wanted⟩ := Attempt.awaits_of_answer_ask answer
    rw [LockCall.append_of_unwritten unwritten]
    exact ⟨reigns, .leading claim renewals, rfl, claims, .renewing own awaits wanted⟩
  | ended success =>
    cases success with
    | true =>
      obtain ⟨desired, written, -⟩ := Attempt.exists_written?_of_ended awaits wanted answer
      rw [written, Option.toList_some, List.map_singleton, ← chronicle_renewed]
      exact sound_rest claims own
    | false =>
      have unwritten := Attempt.written?_eq_none awaits answer (by simp)
      rw [LockCall.append_of_unwritten unwritten]
      exact sound_miss claims own
  | overflow =>
    have unwritten := Attempt.written?_eq_none awaits answer (by simp)
    rw [LockCall.append_of_unwritten unwritten]
    exact ⟨reigns, .leaving claim renewals, (chronicle_leaving reigns claim renewals).symm, claims,
      .brokenDown own⟩

/-- The answer to a call that is to give up the lock. -/
theorem sound_reply_releasing
    {release : Release}
    {observed : Option Observation}
    {shutDown : Bool}
    {call : LockCall}
    {reply : LockReply}
    {claim : Record}
    {renewals : List Record}
    (claims : ∀ reign ∈ reigns, reign.claim.holder = candidate.identity)
    (own : claim.holder = candidate.identity)
    (awaits : (Phase.releasing release).Awaits call) :
    Sound candidate (Course.after candidate now (.reply reply)
      ⟨⟨.releasing release, .held, observed, shutDown⟩, some call, false,
        chronicle reigns (.leaving claim renewals)⟩) := by
  cases release with
  | reading =>
    obtain rfl : call = .get := awaits
    obtain (_ | _ | current) | _ := reply
    · exact sound_retire claims own
    · exact sound_retire claims own
    · simp only [Course.after, receive, Candidacy.step, Candidacy.onReply]
      split
      · refine ⟨reigns, .leaving claim renewals, ?_, claims, .releasing own ⟨_, rfl⟩⟩
        exact List.append_nil _
      · exact sound_retire claims own
    · exact sound_retire claims own
  | writing released =>
    obtain _ | (_ | _) := reply
    · exact sound_retire claims own
    · exact sound_retire claims own
    · exact sound_retire claims own

theorem Fits.reply
    {reply : LockReply}
    (fits : course.Fits candidate reigns prospect)
    (asked : course.pending.isSome = true) :
    (course.after candidate now (.reply reply)).Sound candidate := by
  obtain ⟨candidacy, pending, isWorking, marks⟩ := course
  obtain ⟨rfl, claims, stage⟩ := fits
  cases stage with
  | acquiring awaits wanted => exact sound_reply_acquiring claims awaits wanted
  | renewing own awaits wanted => exact sound_reply_renewing claims own awaits wanted
  | releasing own awaits => exact sound_reply_releasing claims own awaits
  | _ => cases asked

/-- Whatever happens, a course consists of reigns and what follows them. -/
theorem Step.sound
    {next : Course}
    (step : Step candidate course next)
    (sound : course.Sound candidate) :
    next.Sound candidate := by
  obtain ⟨now, event, admitted, rfl⟩ := step
  obtain ⟨reigns, prospect, fits⟩ := sound
  cases event with
  | start => exact fits.start
  | reply reply => exact fits.reply admitted
  | tick => exact fits.tick
  | shutDown => exact fits.shutDown
  | workEnded => exact fits.workEnded admitted

end Events

theorem Reachable.sound
    {candidate : Candidate}
    {course : Course}
    (reachable : Reachable candidate course) :
    course.Sound candidate := by
  induction reachable with
  | refl => exact ⟨[], .idle, rfl, nofun, .idle⟩
  | tail _ step inductionHypothesis => exact step.sound inductionHypothesis

end Course

end VolumeAttacher
