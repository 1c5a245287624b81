import VolumeAttacher.Proofs.Election.Conclusion

/-!
# The outcome of a run

A loss and an order to stop reach the procedure at once, the run returns only after the procedure
ended or had its time, it says that the connection was lost exactly if that is why it ended, and it
does return. It gives up the lock that it held, but not if it had failed to renew the lock and was
still waiting for its procedure when it was told to stop: then the lock keeps its name, although it
never said that it lost the lock. Only a record that counts as many changes of hands as it can keeps
a run from returning: the candidate breaks down over it.
-/

namespace VolumeAttacher

namespace Duty

variable {setup : Setup} {ballot : Ballot} {candidacy : Candidacy} {duty : Duty}

/-- The fault of a run that lost its connection. -/
def connectionLost : Fault := .connection "CSI driver" "connection lost"

namespace Sound

/-- A procedure goes on undisturbed only in a run that was not told to stop and did not return. -/
theorem untold_of_uncancelled
    {began : Nat}
    (sound : duty.Sound setup)
    (works : duty.work = some ⟨began, none⟩) :
    duty.told = none ∧ duty.returned = none := by
  cases ours : setup.ballot with
  | none =>
    obtain ⟨unguarded, -, -, solo⟩ := exists_solo sound ours
    cases solo with
    | working _ running untold => exact ⟨untold, running⟩
    | stopping works' => cases works'.symm.trans works
    | idle _ still | done still => cases still.symm.trans works
  | some ballot =>
    obtain ⟨candidacy, engaged, obeys, -, returns, stands⟩ := exists_kept sound ours
    cases stands with
    | @leading phase _ _ active =>
      refine ⟨by simpa using obeys.symm, ?_⟩
      cases phase with
      | resting | renewing | retrying => exact returns.2
      | idle | acquiring | pausing | stopping | releasing | done => cases active
    | stopping works' => cases works'.symm.trans works
    | seeking _ _ still | releasing still | withdrawn still | retired still =>
      cases still.symm.trans works

/-- The token of a procedure is cancelled once the run is to stop, unless the loss just happened and
was not seen yet. -/
theorem cancelled_of_fired
    {stint : Stint}
    {time : Nat}
    (sound : duty.Sound setup)
    (works : duty.work = some stint)
    (fired : duty.fired = some time) :
    (∃ moment, stint.cancelled = some moment ∧ (moment ≤ time ∨ moment = stint.began)) ∨
      (duty.told = none ∧ duty.now = time) := by
  have timely := sound.base.timely
  obtain ⟨began, _ | moment⟩ := stint
  · obtain ⟨untold, running⟩ := sound.untold_of_uncancelled works
    exact .inr ⟨untold, (timely.unseen running untold time fired).1⟩
  · obtain ⟨-, prompt⟩ := timely.cancelled _ works moment rfl
    exact .inl ⟨moment, rfl, prompt time fired⟩

/-- A run behind an election that returned had its settings refused, or took its candidate to the
end. -/
theorem phase_of_returned
    {result : Except Fault Unit}
    (kept : duty.Kept setup ballot candidacy)
    (finished : duty.returned = some result) :
    candidacy.phase = .idle ∨ candidacy.phase = .done := by
  have returns := kept.returns
  unfold Returns at returns
  split at returns
  · next idle => exact .inl idle
  · next done => exact .inr done
  · cases returns.2.symm.trans finished

/-- A run that returned has no procedure any more. -/
theorem work_eq_none
    {result : Except Fault Unit}
    (sound : duty.Sound setup)
    (finished : duty.returned = some result) :
    duty.work = none := by
  cases ours : setup.ballot with
  | none =>
    obtain ⟨unguarded, -, -, solo⟩ := exists_solo sound ours
    cases solo with
    | idle _ still | done still => exact still
    | working _ running | stopping _ running => cases running.symm.trans finished
  | some ballot =>
    obtain ⟨candidacy, kept⟩ := exists_kept sound ours
    have phase := phase_of_returned kept finished
    obtain ⟨-, -, -, -, stands⟩ := kept
    cases stands with
    | leading active => obtain rfl | rfl := phase <;> cases active
    | stopping => simp at phase
    | seeking _ _ still | releasing still | withdrawn still | retired still => exact still

/-- A candidate that held the lock when it was told to stop, and had not failed to renew it, leaves
it free, unless a call for this fails or is overtaken by one that was given up. -/
theorem isFreeOf_of_returned
    {result : Except Fault Unit}
    (sound : duty.Sound setup)
    (ours : setup.ballot = some ballot)
    (finished : duty.returned = some result)
    (stood : duty.hadLost? = some false)
    (accepted : duty.isRefused = false)
    (last : duty.isOvertaken = false) :
    IsFreeOf ballot.identity duty.lock := by
  obtain ⟨candidacy, kept⟩ := exists_kept sound ours
  have phase := phase_of_returned kept finished
  obtain ⟨-, -, -, -, stands⟩ := kept
  cases stands with
  | seeking _ _ _ unstood => cases unstood.symm.trans stood
  | leading active => obtain rfl | rfl := phase <;> cases active
  | stopping | releasing => simp at phase
  | withdrawn _ stood' => cases stood' false stood
  | retired _ _ cleared => exact cleared accepted last

/-- What a run returns. -/
theorem result_of_returned
    {result : Except Fault Unit}
    (sound : duty.Sound setup)
    (finished : duty.returned = some result) :
    (∃ problem, setup.problem? = some problem ∧ result = .error (.configuration problem)) ∨
      (setup.problem? = none ∧ result = duty.supervision.result) := by
  cases ours : setup.ballot with
  | none =>
    obtain ⟨unguarded, -, -, solo⟩ := exists_solo sound ours
    refine .inr ⟨by simp [Setup.problem?, ours], ?_⟩
    cases solo with
    | done _ finished' => exact Option.some.inj (finished.symm.trans finished')
    | idle _ _ running | working _ running | stopping _ running => cases running.symm.trans finished
  | some ballot =>
    obtain ⟨candidacy, kept⟩ := exists_kept sound ours
    have returns := kept.returns
    obtain idle | done := phase_of_returned kept finished
    · rw [idle] at returns
      exact .inl (returns result finished)
    · rw [done] at returns
      exact .inr ⟨returns.1, Option.some.inj (finished.symm.trans returns.2)⟩

/-- A run says that its connection was lost exactly if it was and there was no order to stop. -/
theorem returns_of_returned
    {result : Except Fault Unit}
    (sound : duty.Sound setup)
    (finished : duty.returned = some result) :
    (∀ problem ∈ setup.problem?, result = .error (.configuration problem)) ∧
    (setup.problem? = none → result = .ok () ∨ result = .error connectionLost) ∧
    (result = .error connectionLost ↔
      setup.problem? = none ∧ duty.supervision.lost = true ∧
        duty.supervision.shutDown = false) := by
  obtain ⟨problem, refused, rfl⟩ | ⟨admitted, rfl⟩ := sound.result_of_returned finished
  · simp [refused, connectionLost]
  · unfold Supervision.result connectionLost
    cases duty.supervision.lost <;> cases duty.supervision.shutDown <;> simp [admitted]

/-- A run whose procedure ended by itself gives up the lock, or is at its end already. -/
theorem isEnding_of_workEnded
    {began : Nat}
    {clock : Timestamp}
    (sound : duty.Sound setup)
    (works : duty.work = some ⟨began, none⟩) :
    (duty.endWork.after clock (.run .workEnded)).IsEnding := by
  cases ours : setup.ballot with
  | none =>
    obtain ⟨unguarded, alone, -, solo⟩ := exists_solo sound ours
    rw [after_run_alone (show duty.endWork.supervision.engagement = _ from alone)]
    cases solo with
    | working => exact .inr (.inr rfl)
    | stopping works' => cases works'.symm.trans works
    | idle _ still | done still => cases still.symm.trans works
  | some ballot =>
    obtain ⟨candidacy, engaged, -, -, -, stands⟩ := exists_kept sound ours
    have engaged' : duty.endWork.supervision.engagement = .elected ballot.candidate candidacy :=
      engaged
    have after : (duty.endWork.after clock (.run .workEnded)).supervision.engagement = _ :=
      engagement_after_run engaged' .workEnded
    cases stands with
    | @leading phase _ _ active =>
      refine .inr (.inl ?_)
      unfold isReleasing phase?
      rw [after]
      cases phase with
      | resting | renewing | retrying => rfl
      | idle | acquiring | pausing | stopping | releasing | done => cases active
    | stopping works' => cases works'.symm.trans works
    | seeking _ _ still | releasing still | withdrawn still | retired still =>
      cases still.symm.trans works

end Sound

/-- How a run under supervision ends. -/
structure EndsAsTold (setup : Setup) (duty : Duty) : Prop where
  /-- A procedure that works after a loss or an order to stop has a token that was cancelled by
  then, or that was cancelled when it was invoked. Only a loss that just happened need not have been
  seen. -/
  cancels : ∀ stint time, duty.work = some stint → duty.fired = some time →
    (∃ moment, stint.cancelled = some moment ∧ (moment ≤ time ∨ moment = stint.began)) ∨
      (duty.told = none ∧ duty.now = time)
  /-- A run that returned has no procedure any more, and each one that was dropped had its time. -/
  waits : ∀ result, duty.returned = some result →
    duty.work = none ∧ ∀ drop ∈ duty.drops, HadGrace setup drop
  /-- A candidate that held the lock when it was told to stop leaves it free, if it had not failed
  to renew it and no call for this fails or is overtaken by one that was given up. -/
  frees : ∀ result, duty.returned = some result → duty.hadLost? = some false →
    duty.isRefused = false → duty.isOvertaken = false →
    ∀ ballot ∈ setup.ballot, IsFreeOf ballot.identity duty.lock
  /-- A candidate that had failed to renew the lock by then makes no call any more. -/
  neglects : duty.hadLost? = some true → duty.calls = []
  /-- The run says what the settings lack. Otherwise it says that the connection was lost exactly if
  it was and there was no order to stop, and nothing is wrong in all other cases. -/
  returns : ∀ result, duty.returned = some result →
    (∀ problem ∈ setup.problem?, result = .error (.configuration problem)) ∧
    (setup.problem? = none → result = .ok () ∨ result = .error connectionLost) ∧
    (result = .error connectionLost ↔
      setup.problem? = none ∧ duty.supervision.lost = true ∧ duty.supervision.shutDown = false)
  /-- A procedure that ends by itself ends the run. -/
  leaves : ∀ began clock, duty.work = some ⟨began, none⟩ →
    (duty.endWork.after clock (.run .workEnded)).IsEnding
  /-- A run that is to stop gets at most eleven of the things that it waits for. Then it returned,
  unless it broke down. -/
  ends : duty.IsEnding → ∀ count next, Continues setup duty count next →
    count ≤ 11 ∧ (next.returned = none → next.isBroken = true ∨ ∃ last, Reaction setup next last)
  /-- A run breaks down only over a record that counts as many changes of hands as it can. -/
  breaks : ∀ next, Step setup duty next → next.isBroken = true →
    duty.isBroken = true ∨ duty.ReadsFull setup

theorem Sound.endsAsTold (sound : duty.Sound setup) : duty.EndsAsTold setup where
  cancels _ _ works fired := sound.cancelled_of_fired works fired
  waits _ finished := ⟨sound.work_eq_none finished, sound.base.dropped⟩
  frees _ finished stood accepted last _ ours :=
    sound.isFreeOf_of_returned ours finished stood accepted last
  neglects lost := sound.base.settled (.inr lost)
  returns _ finished := sound.returns_of_returned finished
  leaves _ _ works := sound.isEnding_of_workEnded works
  ends ending count next continues := by
    have most := duty.rank_le_eleven
    obtain ⟨sound', ends, spent⟩ | ⟨broken, spent⟩ := continues.ending sound ending
    · exact ⟨by omega, fun running => .inr (exists_reaction sound' ends running)⟩
    · exact ⟨by omega, fun _ => .inl broken.isBroken⟩
  breaks next step broken := by
    obtain sound' | ⟨-, full⟩ := sound.step step
    · cases broken.symm.trans sound'.isBroken_eq_false
    · exact .inr full

/-- A run that broke down has no procedure, does not return and gets nothing any more. -/
theorem Broken.endsAsTold (broken : duty.Broken setup) : duty.EndsAsTold setup where
  cancels _ _ works := by cases works.symm.trans broken.still
  waits _ finished := by cases finished.symm.trans broken.running
  frees _ finished := by cases finished.symm.trans broken.running
  neglects := broken.settled
  returns _ finished := by cases finished.symm.trans broken.running
  leaves _ _ works := by cases works.symm.trans broken.still
  ends _ count next continues := by
    obtain ⟨broken', rfl⟩ := continues.broken broken
    exact ⟨Nat.zero_le _, fun _ => .inl broken'.isBroken⟩
  breaks _ _ _ := .inl broken.isBroken

/-- Every run under supervision, with or without an election, ends like this, whatever happens in
whichever order. -/
theorem run_ends_as_told (reachable : Reachable setup duty) : duty.EndsAsTold setup :=
  reachable.sound_or_broken.elim Sound.endsAsTold Broken.endsAsTold

/-! ## Two runs -/

/-- A candidate with the standard timing, and a connection that is watched. -/
def lone : Setup := ⟨true, some ⟨"a", ⟨.standard, "lock", none⟩, none⟩⟩

/-- The only candidate got the lock at once, and its procedure works. -/
def leading : Duty where
  supervision :=
    { engagement :=
        .elected ⟨"a", .standard⟩
          ⟨.resting 5000000000, .held, some ⟨Attempt.claim ⟨"a", .standard⟩ default, "", 0⟩, false⟩
      isWatching := true
      lost := false
      shutDown := false }
  now := 0
  lock := some ⟨Attempt.claim ⟨"a", .standard⟩ default, "1"⟩
  pending := none
  abandoned := []
  work := some ⟨0, none⟩
  drops := []
  fired := none
  told := none
  calls := []
  isRefused := false
  isOvertaken := false
  returned := none

theorem Reachable.step
    {next : Duty}
    (reachable : Reachable setup duty)
    (step : Step setup duty next) :
    Reachable setup next := by
  obtain ⟨lock, steps⟩ := reachable
  exact ⟨lock, steps.tail step⟩

theorem reachable_leading : Reachable lone leading := by
  have opened : Reachable lone (opening lone none) := ⟨none, .refl⟩
  have started := opened.step (.reacts (.start _ default rfl rfl rfl))
  have read := started.step (.reacts (.serve _ .get _ _ rfl .read))
  have asked := read.step (.reacts (.answer _ default _ _ rfl rfl))
  have created := asked.step (.reacts (.serve _ _ _ _ rfl (.create _ "1" (.ok ()) rfl)))
  have led := created.step (.reacts (.answer _ default _ _ rfl rfl))
  exact led

/-- The candidate is told to stop while it works, and leaves the lock free. -/
theorem lock_is_free_after_order :
    ∃ duty, Reachable lone duty ∧ duty.hadLost? = some false ∧ duty.returned = some (.ok ()) ∧
      IsFreeOf "a" duty.lock := by
  have told := reachable_leading.step (.shutDown _ default rfl)
  have ended := told.step (.reacts (.workEnds _ default rfl rfl))
  have read := ended.step (.reacts (.serve _ .get _ _ rfl .read))
  have asked := read.step (.reacts (.answer _ default _ _ rfl rfl))
  have freed := asked.step (.reacts (.serve _ _ _ _ rfl (.update _ _ "2" (.ok ()) rfl)))
  have returned := freed.step (.reacts (.answer _ default _ _ rfl rfl))
  exact ⟨_, returned, rfl, rfl, (run_ends_as_told returned).frees _ rfl rfl rfl rfl _ rfl⟩

/-- The candidate is told to stop after two renewals failed, while it waits for its procedure. It
still holds the lock, all its calls were answered, and it keeps the lock. -/
theorem lock_is_kept_after_failed_renewals :
    ∃ duty candidate candidacy versioned, Reachable lone duty ∧
      duty.told = some (.elected candidate candidacy) ∧ candidacy.leadership = .held ∧
      duty.isRefused = false ∧ duty.abandoned = [] ∧ duty.returned = some (.ok ()) ∧
      duty.lock = some versioned ∧ versioned.isHeldBy "a" = true := by
  -- The renewals at five and at ten seconds fail, and there is no time for another one.
  have woken := reachable_leading.step
    (.wait _ 5000000000 (by decide) (by rintro _ ⟨⟩; decide) nofun)
  have renewing := woken.step (.tick _ default rfl)
  have refused := renewing.step (.reacts (.serve _ _ _ _ rfl (.refuse _ (.connection "" ""))))
  have missed := refused.step (.reacts (.answer _ default _ _ rfl rfl))
  have rewoken := missed.step (.wait _ 10000000000 (by decide) (by rintro _ ⟨⟩; decide) nofun)
  have retrying := rewoken.step (.tick _ default rfl)
  have refused' := retrying.step (.reacts (.serve _ _ _ _ rfl (.refuse _ (.connection "" ""))))
  have lost := refused'.step (.reacts (.answer _ default _ _ rfl rfl))
  have told := lost.step (.shutDown _ default rfl)
  have returned := told.step (.reacts (.workEnds _ default rfl rfl))
  exact ⟨_, _, _, _, returned, rfl, rfl, rfl, rfl, rfl, rfl, rfl⟩

end Duty

end VolumeAttacher
