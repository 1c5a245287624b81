import VolumeAttacher.Proofs.Election.Lineage
import VolumeAttacher.Proofs.Election.Surroundings

/-!
# How a run comes to its end

A run that was told to stop, and one whose procedure ended by itself, waits for a few more things
only: that the lock deals with a call and answers it, and that the procedure ends. Nothing that
happens meanwhile adds to them. A run that breaks down meanwhile waits for nothing any more.
-/

namespace VolumeAttacher

/-! ## Candidates -/

/-- How many events a candidate that tries to get the lock waits for at most, if it is to stop. -/
def Attempt.remaining : Attempt → Nat
  | .reading _ => 5
  | .creating _ | .updating _ => 4

/-- How many answers giving up the lock waits for at most. -/
def Release.remaining : Release → Nat
  | .reading => 2
  | .writing _ => 1

namespace Phase

/-- How many events a candidate waits for at most, if it is to stop. -/
def remaining : Phase → Nat
  | .acquiring attempt => attempt.remaining
  | .stopping .shutDown _ => 3
  | .releasing release => release.remaining
  | .done => 0
  | _ => 1

theorem remaining_le_five (phase : Phase) : phase.remaining ≤ 5 := by
  cases phase with
  | acquiring attempt => cases attempt <;> simp [remaining, Attempt.remaining]
  | stopping ending => cases ending <;> simp [remaining]
  | releasing release => cases release <;> simp [remaining, Release.remaining]
  | idle | pausing | resting | renewing | retrying | done => simp [remaining]

/-- What a candidate waits for that is to stop. -/
def Expects : Phase → ElectionEvent → Prop
  | .idle, .start | .acquiring _, .reply _ | .stopping _ _, .workEnded | .releasing _, .reply _ =>
    True
  | _, _ => False

end Phase

theorem Attempt.four_le_remaining (attempt : Attempt) : 4 ≤ attempt.remaining := by
  cases attempt <;> simp [remaining]

theorem Release.remaining_pos (release : Release) : 0 < release.remaining := by
  cases release <;> simp [remaining]

/-- An attempt that goes on has less to wait for. -/
theorem Attempt.remaining_lt_of_answer_ask
    {candidate : Candidate}
    {observed observed' : Option Observation}
    {attempt attempt' : Attempt}
    {now : Moment}
    {reply : LockReply}
    {call : LockCall}
    (answer : attempt.answer candidate observed now reply = (observed', .ask attempt' call)) :
    attempt'.remaining < attempt.remaining := by
  obtain ⟨began, rfl, -⟩ := exists_reading_of_answer_ask answer
  obtain ⟨desired, rfl, -⟩ | ⟨desired, current, rfl, -⟩ := eq_of_answer_ask answer <;>
    simp [remaining]

namespace Candidacy

/-- A candidate that is to stop: it was told to, and neither works nor pauses, or it already gives
up the lock. -/
inductive IsEnding : Candidacy → Prop
  | idle {leadership observed} : IsEnding ⟨.idle, leadership, observed, true⟩
  | acquiring {attempt leadership observed} :
    IsEnding ⟨.acquiring attempt, leadership, observed, true⟩
  | stopping {ending deadline leadership observed} :
    IsEnding ⟨.stopping ending deadline, leadership, observed, true⟩
  | releasing {release leadership observed shutDown} :
    IsEnding ⟨.releasing release, leadership, observed, shutDown⟩
  | done {leadership observed shutDown} : IsEnding ⟨.done, leadership, observed, shutDown⟩

variable {candidate : Candidate} {now : Moment} {candidacy : Candidacy}

/-- A candidate that gives up the lock asks for one more call at most. -/
theorem phase_reply_releasing
    {release : Release}
    (releasing : candidacy.phase = .releasing release)
    (reply : LockReply) :
    (release = .reading ∧ ∃ released,
      (candidacy.step candidate now (.reply reply)).1.phase = .releasing (.writing released)) ∨
      (candidacy.step candidate now (.reply reply)).1.phase = .done := by
  obtain ⟨phase, leadership, observed, shutDown⟩ := candidacy
  obtain rfl : phase = .releasing release := releasing
  cases release with
  | reading =>
    obtain (_ | _ | current) | _ := reply
    · exact .inr rfl
    · exact .inr rfl
    · simp only [step, onReply]
      split
      · exact .inl ⟨trivial, _, rfl⟩
      · exact .inr rfl
    · exact .inr rfl
  | writing released => obtain _ | (_ | _) := reply <;> exact .inr rfl

/-- A candidate that gives up the lock does nothing else any more. -/
theorem phase_step_releasing
    {release : Release}
    (releasing : candidacy.phase = .releasing release)
    (candidate : Candidate)
    (now : Moment)
    (event : ElectionEvent) :
    (∃ release, (candidacy.step candidate now event).1.phase = .releasing release) ∨
      (candidacy.step candidate now event).1.phase = .done := by
  cases event with
  | reply reply =>
    exact (phase_reply_releasing releasing reply).imp_left fun ⟨_, released, writes⟩ =>
      ⟨.writing released, writes⟩
  | start | tick | shutDown | workEnded =>
    obtain ⟨phase, leadership, observed, shutDown⟩ := candidacy
    obtain rfl : phase = .releasing release := releasing
    exact .inl ⟨release, rfl⟩

/-- A candidate that is to stop has less to wait for after what it waits for, and no more after
anything else. -/
theorem IsEnding.remaining_step
    (ends : candidacy.IsEnding)
    (candidate : Candidate)
    (now : Moment)
    (event : ElectionEvent) :
    (candidacy.step candidate now event).1.phase.remaining < candidacy.phase.remaining ∨
      ¬ candidacy.phase.Expects event ∧ (candidacy.step candidate now event).2 = [] ∧
        (candidacy.step candidate now event).1.phase = candidacy.phase := by
  have unchanged (unexpected : ¬ candidacy.phase.Expects event)
      (still : candidacy.step candidate now event = (candidacy, [])) :
      ¬ candidacy.phase.Expects event ∧ (candidacy.step candidate now event).2 = [] ∧
        (candidacy.step candidate now event).1.phase = candidacy.phase := by
    rw [still]
    exact ⟨unexpected, rfl, rfl⟩
  cases event with
  | start =>
    cases ends with
    | idle => exact .inl Nat.zero_lt_one
    | acquiring | stopping | releasing | done => exact .inr (unchanged id rfl)
  | reply reply =>
    cases ends with
    | @acquiring attempt leadership observed =>
      have least := attempt.four_le_remaining
      refine .inl ?_
      simp only [step, onReply]
      rcases answer : attempt.answer candidate observed now reply with ⟨observed', next⟩
      cases next with
      | ask attempt' call => exact Attempt.remaining_lt_of_answer_ask answer
      | ended success =>
        cases success with
        | true => exact least
        | false => exact Nat.lt_of_lt_of_le (Nat.succ_pos 3) least
      | overflow => exact Nat.lt_of_lt_of_le (Nat.succ_pos 3) least
    | @releasing release leadership observed shutDown =>
      refine .inl ?_
      let candidacy : Candidacy := ⟨.releasing release, leadership, observed, shutDown⟩
      obtain ⟨rfl, released, writes⟩ | done :=
        phase_reply_releasing (show candidacy.phase = .releasing release from rfl) reply
      · rw [writes]
        exact Nat.one_lt_two
      · rw [done]
        exact Release.remaining_pos _
    | idle | stopping | done => exact .inr (unchanged id rfl)
  | tick =>
    cases ends with
    | @stopping ending deadline leadership observed =>
      by_cases due : Duration.ring deadline ≤ now.instant
      · refine .inl ?_
        simp only [step, timer?, if_pos due, onTimer]
        cases ending with
        | lost => exact Nat.zero_lt_one
        | shutDown => exact Nat.lt_succ_self 2
      · exact .inr (unchanged id (by simp only [step, timer?, if_neg due]))
    | idle | acquiring | releasing | done => exact .inr (unchanged id rfl)
  | shutDown => cases ends <;> exact .inr ⟨id, rfl, rfl⟩
  | workEnded =>
    cases ends with
    | @stopping ending =>
      cases ending with
      | lost => exact .inl Nat.zero_lt_one
      | shutDown => exact .inl (Nat.lt_succ_self 2)
    | idle | acquiring | releasing | done => exact .inr (unchanged id rfl)

end Candidacy

/-! ## Runs -/

/-- How many events a run waits for at most, if it is to stop. -/
def Engagement.remaining : Engagement → Nat
  | .alone .done => 0
  | .alone .stopping => 1
  | .alone _ => 2
  | .elected _ candidacy => candidacy.phase.remaining

namespace Duty

/-- How much a run that is to stop waits for at most. A call is first dealt with and then
answered. -/
def rank (duty : Duty) : Nat :=
  if duty.returned.isSome then 0
  else 2 * duty.supervision.engagement.remaining + duty.unserved.length

/-- A run that is to stop: it was told to, or its procedure ended by itself. -/
def IsEnding (duty : Duty) : Prop :=
  duty.told.isSome = true ∨ duty.isReleasing = true ∨ duty.returned.isSome = true

variable {setup : Setup} {ballot : Ballot} {candidate : Candidate} {candidacy : Candidacy}
  {duty next : Duty} {clock : Timestamp}

theorem supervision_foldl_act (actions : List ElectionAction) (duty : Duty) :
    (actions.foldl act duty).supervision = duty.supervision := by
  induction actions generalizing duty with
  | nil => rfl
  | cons action rest inductionHypothesis =>
    rw [List.foldl_cons, inductionHypothesis]
    cases action <;> rfl

theorem told_foldl_act (actions : List ElectionAction) (duty : Duty) :
    (actions.foldl act duty).told = duty.told := by
  induction actions generalizing duty with
  | nil => rfl
  | cons action rest inductionHypothesis =>
    rw [List.foldl_cons, inductionHypothesis]
    cases action <;> rfl

/-- Nothing that happens to a run takes back that it was told to stop. -/
theorem told_after (clock : Timestamp) (event : SupervisionEvent) :
    (duty.after clock event).told = duty.told :=
  told_foldl_act _ _

theorem engagement_after_run
    (engaged : duty.supervision.engagement = .elected candidate candidacy)
    (event : ElectionEvent) :
    (duty.after clock (.run event)).supervision.engagement =
      .elected candidate (candidacy.step candidate ⟨duty.now, clock⟩ event).1 := by
  rw [after_run engaged, go, supervision_foldl_act]

theorem engagement_after_run_alone
    {unguarded : Unguarded}
    (alone : duty.supervision.engagement = .alone unguarded)
    (event : ElectionEvent) :
    (duty.after clock (.run event)).supervision.engagement =
      .alone (unguarded.step event).1 := by
  rw [after_run_alone alone, supervision_foldl_act]

theorem length_unserved_le (duty : Duty) : duty.unserved.length ≤ 1 := by
  unfold unserved
  split <;> simp

theorem rank_le (duty : Duty) : duty.rank ≤ 2 * duty.supervision.engagement.remaining + 1 := by
  have least := duty.length_unserved_le
  unfold rank
  split <;> omega

theorem rank_of_running (running : duty.returned = none) :
    duty.rank = 2 * duty.supervision.engagement.remaining + duty.unserved.length := by
  simp [rank, running]

/-- A run that waits for fewer events is closer to its end, even if it has one more call to make. -/
theorem rank_lt
    (running : duty.returned = none)
    (less : next.supervision.engagement.remaining < duty.supervision.engagement.remaining) :
    next.rank < duty.rank := by
  have before := rank_of_running running
  have after := next.rank_le
  omega

/-- The candidate of a run that is to stop is to stop. -/
theorem Kept.isEnding
    (kept : duty.Kept setup ballot candidacy)
    (running : duty.returned = none)
    (ends : duty.IsEnding) :
    candidacy.IsEnding := by
  have stage : duty.phase? = some candidacy.phase := by simp [phase?, kept.engaged]
  have told : duty.isReleasing = false → candidacy.shutDown = true := by
    intro otherwise
    rw [kept.obeys]
    simpa [IsEnding, otherwise, running] using ends
  obtain ⟨engaged, -, -, -, stands⟩ := kept
  cases stands with
  | seeking seeks =>
    obtain rfl | ⟨attempt, rfl⟩ | ⟨rfl, wake, rfl⟩ := seeks
    · obtain rfl := told (by simp [isReleasing, stage])
      exact .idle
    · obtain rfl := told (by simp [isReleasing, stage])
      exact .acquiring
    · cases told (by simp [isReleasing, stage])
  | @leading phase _ _ active =>
    have otherwise : duty.isReleasing = false := by
      cases phase with
      | resting | renewing | retrying => simp [isReleasing, phase?, engaged]
      | idle | acquiring | pausing | stopping | releasing | done => cases active
    cases told otherwise
  | stopping =>
    obtain rfl := told (by simp [isReleasing, stage])
    exact .stopping
  | releasing => exact .releasing
  | withdrawn | retired => exact .done

/-- An event that the run waits for brings it closer to its end, and no other event takes it away
from it. -/
theorem Kept.rank_run
    (kept : duty.Kept setup ballot candidacy)
    (running : duty.returned = none)
    (ends : duty.IsEnding)
    (next : Duty)
    (engaged : next.supervision.engagement = .elected ballot.candidate candidacy)
    (event : ElectionEvent) :
    (next.after clock (.run event)).rank < duty.rank ∨
      ¬ candidacy.phase.Expects event ∧ (next.after clock (.run event)).rank = next.rank := by
  obtain less | ⟨unexpected, idle, same⟩ :=
    (kept.isEnding running ends).remaining_step ballot.candidate ⟨next.now, clock⟩ event
  · refine .inl (rank_lt running ?_)
    rw [engagement_after_run engaged, kept.engaged]
    exact less
  · refine .inr ⟨unexpected, ?_⟩
    rw [after_run engaged, go, idle]
    simp [rank, unserved, engaged, Engagement.remaining, same]

/-- A run that is to stop still is, whatever event it gets. -/
theorem Kept.isEnding_after
    {event : ElectionEvent}
    (kept : duty.Kept setup ballot candidacy)
    (running : duty.returned = none)
    (ours : setup.ballot = some ballot)
    (ends : duty.IsEnding)
    (engaged : next.supervision.engagement = .elected ballot.candidate candidacy)
    (told : duty.told.isSome = true → next.told.isSome = true)
    (sound : (next.after clock (.run event)).Sound setup) :
    (next.after clock (.run event)).IsEnding := by
  obtain before | releasing | finished := ends
  · left
    rw [told_after]
    exact told before
  · obtain ⟨release, releasing⟩ : ∃ release, candidacy.phase = .releasing release := by
      unfold isReleasing phase? at releasing
      rw [kept.engaged] at releasing
      split at releasing <;> simp_all
    obtain ⟨candidacy', kept'⟩ := exists_kept sound ours
    have same := (engagement_after_run engaged event).symm.trans kept'.engaged
    obtain ⟨-, rfl⟩ := Engagement.elected.inj same
    obtain ⟨release', releasing'⟩ | done :=
      Candidacy.phase_step_releasing releasing ballot.candidate ⟨next.now, clock⟩ event
    · exact .inr (.inl (by simp [isReleasing, phase?, kept'.engaged, releasing']))
    · have returns := kept'.returns
      rw [done] at returns
      exact .inr (.inr (by rw [returns.2]; rfl))
  · simp [running] at finished

/-- A run without an election that is to stop was told to. -/
theorem IsEnding.told_of_alone
    {unguarded : Unguarded}
    (ends : duty.IsEnding)
    (running : duty.returned = none)
    (alone : duty.supervision.engagement = .alone unguarded) :
    duty.told.isSome = true := by
  simpa [IsEnding, isReleasing, phase?, alone, running] using ends

/-- A run that waits for the answer to a call did not return. -/
theorem Sound.running_of_pending
    {pending : LockCall × Option LockReply}
    (sound : duty.Sound setup)
    (asked : duty.pending = some pending) :
    duty.returned = none := by
  cases ours : setup.ballot with
  | none =>
    obtain ⟨unguarded, -, rests, -⟩ := exists_solo sound ours
    cases rests.symm.trans asked
  | some ballot =>
    obtain ⟨candidacy, kept⟩ := exists_kept sound ours
    have asks := kept.asks
    rw [asked] at asks
    have returns := kept.returns
    unfold Returns at returns
    split at returns
    · next idle => simp [idle, Phase.isAsking] at asks
    · next done => simp [done, Phase.isAsking] at asks
    · exact returns.2

/-- Whatever a run that is to stop waits for brings it closer to its end. -/
theorem rank_lt_of_reaction
    (sound : duty.Sound setup)
    (ends : duty.IsEnding)
    (reaction : Reaction setup duty next) :
    next.rank < duty.rank := by
  cases reaction with
  | refuse problem running refused =>
    cases ours : setup.ballot with
    | none => simp [Setup.problem?, ours] at refused
    | some ballot =>
      obtain ⟨candidacy, kept⟩ := exists_kept sound ours
      have least : 0 < duty.supervision.engagement.remaining := by
        rw [kept.engaged]
        simp [Engagement.remaining, kept.idle_of_refused refused, Phase.remaining]
      have before := rank_of_running running
      change 0 < duty.rank
      omega
  | start clock running admitted idle =>
    cases ours : setup.ballot with
    | none =>
      obtain ⟨unguarded, alone, -, solo⟩ := exists_solo sound ours
      have told := ends.told_of_alone running alone
      refine rank_lt running ?_
      rw [engagement_after_run_alone alone, alone]
      cases solo with
      | idle obeys =>
        obtain rfl := obeys.trans told
        exact Nat.one_lt_two
      | working | stopping | done => simp [isIdle, alone] at idle
    | some ballot =>
      obtain ⟨candidacy, kept⟩ := exists_kept sound ours
      obtain less | ⟨unexpected, -⟩ := kept.rank_run running ends duty kept.engaged .start
      · exact less
      · rw [kept.phase_of_isIdle idle] at unexpected
        exact absurd trivial unexpected
  | serve call lock reply pending deals =>
    have running := sound.running_of_pending pending
    simp [rank, running, unserved, pending]
  | answer clock call reply running pending =>
    cases ours : setup.ballot with
    | none =>
      obtain ⟨unguarded, -, rests, -⟩ := exists_solo sound ours
      cases rests.symm.trans pending
    | some ballot =>
      obtain ⟨candidacy, kept⟩ := exists_kept sound ours
      obtain less | ⟨unexpected, -⟩ :=
        kept.rank_run running ends (duty.hear reply) kept.engaged (.reply reply)
      · exact less
      · have asks := kept.asks
        rw [pending] at asks
        cases kept.isEnding running ends with
        | acquiring | releasing => exact absurd trivial unexpected
        | idle | stopping | done => cases asks
  | workEnds clock running working =>
    cases ours : setup.ballot with
    | none =>
      obtain ⟨unguarded, alone, -, solo⟩ := exists_solo sound ours
      have told := ends.told_of_alone running alone
      refine rank_lt running ?_
      rw [engagement_after_run_alone (show duty.endWork.supervision.engagement = _ from alone),
        alone]
      cases solo with
      | working _ _ untold => simp [untold] at told
      | stopping => exact Nat.zero_lt_one
      | idle _ still | done still => simp [still] at working
    | some ballot =>
      obtain ⟨candidacy, kept⟩ := exists_kept sound ours
      obtain less | ⟨unexpected, -⟩ :=
        kept.rank_run running ends duty.endWork kept.engaged .workEnded
      · exact less
      · have isEnding := kept.isEnding running ends
        obtain ⟨-, -, -, -, stands⟩ := kept
        cases stands with
        | leading active => cases isEnding <;> cases active
        | stopping => exact absurd trivial unexpected
        | seeking _ _ still | releasing still | withdrawn still | retired still =>
          simp [still] at working

/-- A run that is to stop still is, whatever event it gets. -/
theorem Sound.isEnding_after
    {event : ElectionEvent}
    (sound : duty.Sound setup)
    (running : duty.returned = none)
    (ends : duty.IsEnding)
    (engaged : next.supervision.engagement = duty.supervision.engagement)
    (told : duty.told.isSome = true → next.told.isSome = true)
    (after : (next.after clock (.run event)).Sound setup) :
    (next.after clock (.run event)).IsEnding := by
  cases ours : setup.ballot with
  | none =>
    obtain ⟨unguarded, alone, -, solo⟩ := exists_solo sound ours
    left
    rw [told_after]
    exact told (ends.told_of_alone running alone)
  | some ballot =>
    obtain ⟨candidacy, kept⟩ := exists_kept sound ours
    exact kept.isEnding_after running ours ends (engaged.trans kept.engaged) told after

/-- Neither time nor another order to stop takes a run that is to stop away from its end. -/
theorem Sound.rank_after_le
    {event : ElectionEvent}
    (sound : duty.Sound setup)
    (running : duty.returned = none)
    (ends : duty.IsEnding)
    (engaged : next.supervision.engagement = duty.supervision.engagement)
    (same : next.rank = duty.rank)
    (quiet : event = .tick ∨ event = .shutDown) :
    (next.after clock (.run event)).rank ≤ duty.rank := by
  cases ours : setup.ballot with
  | none =>
    obtain ⟨unguarded, alone, -, solo⟩ := exists_solo sound ours
    have told := ends.told_of_alone running alone
    have still : unguarded.step event = (unguarded, []) := by
      cases solo with
      | idle obeys =>
        obtain rfl := obeys.trans told
        obtain rfl | rfl := quiet <;> rfl
      | working _ _ untold => simp [untold] at told
      | stopping | done => obtain rfl | rfl := quiet <;> rfl
    have alone' := engaged.trans alone
    rw [after_run_alone alone', still, ← alone']
    exact Nat.le_of_eq same
  | some ballot =>
    obtain ⟨candidacy, kept⟩ := exists_kept sound ours
    obtain less | ⟨-, equal⟩ :=
      kept.rank_run running ends next (engaged.trans kept.engaged) event
    · exact Nat.le_of_lt less
    · exact Nat.le_of_eq (equal.trans same)

/-- No step after which the run goes on takes a run that is to stop away from its end. -/
theorem ending_of_step
    (sound : duty.Sound setup)
    (ends : duty.IsEnding)
    (step : Step setup duty next)
    (after : next.Sound setup) :
    next.IsEnding ∧ next.rank ≤ duty.rank := by
  cases step with
  | reacts reaction =>
    refine ⟨?_, Nat.le_of_lt (rank_lt_of_reaction sound ends reaction)⟩
    cases reaction with
    | refuse => exact .inr (.inr rfl)
    | start clock running => exact sound.isEnding_after running ends rfl id after
    | serve => exact ends
    | answer clock call reply running => exact sound.isEnding_after running ends rfl id after
    | workEnds clock running => exact sound.isEnding_after running ends rfl id after
  | tick clock running =>
    exact ⟨sound.isEnding_after running ends rfl id after,
      sound.rank_after_le running ends rfl rfl (.inl rfl)⟩
  | shutDown clock running =>
    have ordered : duty.fire.tell.after clock .shutDown =
        (duty.ordered duty.fire.fired true).after clock (.run .shutDown) := rfl
    rw [ordered] at after ⊢
    exact ⟨sound.isEnding_after running ends rfl (fun _ => told_ordered) after,
      sound.rank_after_le running ends rfl rfl (.inr rfl)⟩
  | seeLoss clock running lost =>
    rw [after_lossSeen lost] at after ⊢
    exact ⟨sound.isEnding_after running ends rfl (fun _ => told_ordered) after,
      sound.rank_after_le running ends rfl rfl (.inr rfl)⟩
  | lose | serveAbandoned | foreign | wait => exact ⟨ends, Nat.le_refl _⟩

/-- A run that did not start is started, or its settings are refused. -/
theorem exists_reaction_of_isIdle
    (running : duty.returned = none)
    (idle : duty.isIdle = true) :
    ∃ next, Reaction setup duty next := by
  cases admission : setup.problem? with
  | none => exact ⟨_, .start duty default running admission idle⟩
  | some problem => exact ⟨_, .refuse duty problem running admission⟩

/-- The lock deals with a call that is pending, or its answer arrives. -/
theorem exists_reaction_of_pending
    (running : duty.returned = none)
    (asked : duty.pending.isSome = true) :
    ∃ next, Reaction setup duty next := by
  obtain ⟨⟨call, answer⟩, pending⟩ := Option.isSome_iff_exists.mp asked
  cases answer with
  | none =>
    exact ⟨_, .serve duty call duty.lock _ pending (.refuse call (.connection "" ""))⟩
  | some reply => exact ⟨_, .answer duty default call reply running pending⟩

/-- A run that is to stop waits for something, until it returned. -/
theorem exists_reaction
    (sound : duty.Sound setup)
    (ends : duty.IsEnding)
    (running : duty.returned = none) :
    ∃ next, Reaction setup duty next := by
  cases ours : setup.ballot with
  | none =>
    obtain ⟨unguarded, alone, -, solo⟩ := exists_solo sound ours
    have told := ends.told_of_alone running alone
    cases solo with
    | idle => exact exists_reaction_of_isIdle running (by simp [isIdle, alone])
    | working _ _ untold => simp [untold] at told
    | stopping works => exact ⟨_, .workEnds duty default running (by simp [works])⟩
    | done _ finished => simp [finished] at running
  | some ballot =>
    obtain ⟨candidacy, kept⟩ := exists_kept sound ours
    have isEnding := kept.isEnding running ends
    obtain ⟨engaged, -, asks, returns, stands⟩ := kept
    cases isEnding with
    | idle => exact exists_reaction_of_isIdle running (by simp [isIdle, engaged])
    | acquiring | releasing => exact exists_reaction_of_pending running asks.symm
    | stopping =>
      cases stands with
      | seeking seeks => simp at seeks
      | stopping works => exact ⟨_, .workEnds duty default running (by simp [works])⟩
    | done => simp [returns.2] at running

/-! ## Courses -/

/-- A run goes on for some time, and some of what happens is what it waited for. -/
inductive Continues (setup : Setup) (duty : Duty) : Nat → Duty → Prop
  | refl : Continues setup duty 0 duty
  | step {count next last}
      (before : Continues setup duty count next)
      (step : Step setup next last) :
    Continues setup duty count last
  | reaction {count next last}
      (before : Continues setup duty count next)
      (reaction : Reaction setup next last) :
    Continues setup duty (count + 1) last

/-- A run that broke down stays as it is, and gets nothing. -/
theorem Continues.broken
    {count : Nat}
    (continues : Continues setup duty count next)
    (broken : duty.Broken setup) :
    next.Broken setup ∧ count = 0 := by
  induction continues with
  | refl => exact ⟨broken, rfl⟩
  | step _ step inductionHypothesis =>
    exact inductionHypothesis.imp_left fun broken' => broken'.step step
  | reaction _ reaction inductionHypothesis =>
    exact absurd reaction inductionHypothesis.1.not_reaction

/-- Whatever happens to a run that is to stop, it is at an end once it got all that it waits for, and
gets no more than that if it breaks down. -/
theorem Continues.ending
    {count : Nat}
    (continues : Continues setup duty count next)
    (sound : duty.Sound setup)
    (ends : duty.IsEnding) :
    next.Sound setup ∧ next.IsEnding ∧ count + next.rank ≤ duty.rank ∨
      next.Broken setup ∧ count ≤ duty.rank := by
  induction continues with
  | refl => exact .inl ⟨sound, ends, Nat.le_of_eq (Nat.zero_add _)⟩
  | step _ step inductionHypothesis =>
    obtain ⟨sound', ends', spent⟩ | ⟨broken, spent⟩ := inductionHypothesis
    · obtain after | ⟨broken, -⟩ := sound'.step step
      · obtain ⟨ends'', less⟩ := ending_of_step sound' ends' step after
        exact .inl ⟨after, ends'', by omega⟩
      · exact .inr ⟨broken, by omega⟩
    · exact .inr ⟨broken.step step, spent⟩
  | reaction _ reaction inductionHypothesis =>
    obtain ⟨sound', ends', spent⟩ | ⟨broken, -⟩ := inductionHypothesis
    · have less := rank_lt_of_reaction sound' ends' reaction
      obtain after | ⟨broken, -⟩ := sound'.step (.reacts reaction)
      · exact .inl ⟨after, (ending_of_step sound' ends' (.reacts reaction) after).1, by omega⟩
      · exact .inr ⟨broken, by omega⟩
    · exact absurd reaction broken.not_reaction

/-- How long it takes a run to end at most, counted in what it waits for. -/
theorem rank_le_eleven (duty : Duty) : duty.rank ≤ 11 := by
  have most := duty.rank_le
  have few : duty.supervision.engagement.remaining ≤ 5 := by
    obtain unguarded | ⟨candidate, candidacy⟩ := duty.supervision.engagement
    · cases unguarded <;> simp [Engagement.remaining]
    · exact candidacy.phase.remaining_le_five
  omega

end Duty

end VolumeAttacher
