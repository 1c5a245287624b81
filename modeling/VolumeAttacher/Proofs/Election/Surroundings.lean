import VolumeAttacher.Proofs.Election.Obedience

/-!
# What happens around a run

The lock, its other writers, the connection and the clock do not change what is known of a run, and
neither does what happens to a run without an election. Therefore it holds of all that a run may
come to, unless an answer brought a record over which the candidate broke down. Such a run is left
as it is by all that happens afterwards.
-/

namespace VolumeAttacher

namespace Duty

variable {setup : Setup} {ballot : Ballot} {duty next : Duty}

/-! ## What others do -/

/-- Something happens around a run, and the run does nothing. -/
structure Idles (duty next : Duty) : Prop where
  engaged : next.supervision.engagement = duty.supervision.engagement
  told : next.told = duty.told
  work : next.work = duty.work
  isRefused : next.isRefused = duty.isRefused
  returned : next.returned = duty.returned
  result : next.supervision.result = duty.supervision.result ∨ duty.returned = none
  asks : next.pending.isSome = duty.pending.isSome

namespace Idles

theorem returns
    {phase : Phase}
    (idles : Idles duty next)
    (returns : duty.Returns setup phase) :
    next.Returns setup phase := by
  unfold Returns at returns ⊢
  rw [idles.returned]
  split at returns <;> try exact returns
  obtain same | running := idles.result
  · rwa [same]
  · exact absurd (running.symm.trans returns.2) nofun

theorem kept
    {candidacy : Candidacy}
    (idles : Idles duty next)
    (kept : duty.Kept setup ballot candidacy)
    (releases : ∀ release, candidacy.phase = .releasing release →
      duty.Releases ballot.identity release → next.Releases ballot.identity release)
    (clears : candidacy.phase = .done →
      duty.Cleared ballot.identity → next.Cleared ballot.identity) :
    next.Kept setup ballot candidacy where
  engaged := idles.engaged.trans kept.engaged
  obeys := by rw [idles.told]; exact kept.obeys
  asks := by rw [idles.asks]; exact kept.asks
  returns := idles.returns kept.returns
  stands := by
    have stood : next.hadLost? = duty.hadLost? := by unfold hadLost?; rw [idles.told]
    have works := idles.work
    obtain ⟨-, -, -, -, stands⟩ := kept
    cases stands with
    | seeking seeks unheld still stood' =>
      exact .seeking seeks unheld (works.trans still) (stood.trans stood')
    | leading active works' => exact .leading active (works.trans works')
    | stopping works' stood' => exact .stopping (works.trans works') (by rwa [stood])
    | releasing still stood' releases' =>
      exact .releasing (works.trans still) (by rwa [stood]) (releases _ rfl releases')
    | withdrawn still stood' => exact .withdrawn (works.trans still) (by rwa [stood])
    | retired still stood' cleared =>
      refine .retired (works.trans still) (by rwa [stood]) fun accepted => ?_
      exact clears rfl (cleared (idles.isRefused ▸ accepted))

theorem solo
    {unguarded : Unguarded}
    (idles : Idles duty next)
    (solo : duty.Solo unguarded) :
    next.Solo unguarded := by
  have works := idles.work
  have returned := idles.returned
  cases solo with
  | idle obeys still running =>
    exact .idle (by rwa [idles.told]) (works.trans still) (returned.trans running)
  | working works' running untold =>
    exact .working (works.trans works') (returned.trans running) (idles.told.trans untold)
  | stopping works' running told =>
    exact .stopping (works.trans works') (returned.trans running) (by rwa [idles.told])
  | done still finished =>
    refine .done (works.trans still) (returned.trans ?_)
    obtain same | running := idles.result
    · rwa [same]
    · exact absurd (running.symm.trans finished) nofun

/-- Nothing happens to a run whose lock is only made more free. -/
theorem sound
    (idles : Idles duty next)
    (sound : duty.Sound setup)
    (base : next.Base setup)
    (releases : ∀ ballot release, setup.ballot = some ballot →
      duty.phase? = some (.releasing release) →
      duty.Releases ballot.identity release → next.Releases ballot.identity release)
    (clears : ∀ ballot, setup.ballot = some ballot → duty.phase? = some .done →
      duty.Cleared ballot.identity → next.Cleared ballot.identity)
    (rests : duty.pending = none → next.pending = none) :
    next.Sound setup := by
  refine ⟨base, ?_⟩
  have engaged := sound.engaged
  cases ours : setup.ballot with
  | none =>
    rw [ours] at engaged
    obtain ⟨unguarded, alone, quiet, solo⟩ := engaged
    exact ⟨unguarded, idles.engaged.trans alone, rests quiet, idles.solo solo⟩
  | some ballot =>
    rw [ours] at engaged
    obtain ⟨candidacy, kept⟩ := engaged
    have phase : duty.phase? = some candidacy.phase := by simp [phase?, kept.engaged]
    refine ⟨candidacy, idles.kept kept ?_ ?_⟩
    · rintro release here
      exact releases ballot release ours (phase.trans (congrArg some here))
    · rintro here
      exact clears ballot ours (phase.trans (congrArg some here))

end Idles

/-- What a release is to say about the lock remains true while no answer arrives and the lock does
not become less free. -/
theorem releases_of_cleared
    {identity : String}
    {release : Release}
    (releases : duty.Releases identity release)
    (asks : next.pending = duty.pending)
    (clears : ∀ call reply, duty.pending = some (call, some reply) →
      duty.Cleared identity → next.Cleared identity) :
    next.Releases identity release := by
  cases release with
  | reading =>
    obtain ⟨answer, asked, heard⟩ := releases
    refine ⟨answer, asks.trans asked, ?_⟩
    rintro reply rfl
    obtain ⟨result, rfl, shows⟩ := heard reply rfl
    exact ⟨result, rfl, fun found read => (shows found read).imp_left (clears _ _ asked)⟩
  | writing released =>
    obtain ⟨vacated, version, answer, asked, heard⟩ := releases
    refine ⟨vacated, version, answer, asks.trans asked, ?_⟩
    rintro reply rfl
    obtain ⟨result, rfl, shows⟩ := heard reply rfl
    exact ⟨result, rfl, fun accepted => clears _ _ asked (shows accepted)⟩

/-- What a lock does with the read of a release shows that it is free, unless the candidate still
has it. -/
theorem cleared_of_read
    {identity : String}
    {lock : Option Versioned}
    {reply : LockReply}
    (deals : LockDeals duty.lock .get lock reply) :
    ∃ result, reply = .got result ∧ ∀ found, result = .ok found →
      Cleared identity { duty with lock, pending := some (.get, some reply) } ∨
        ∃ current, found = some current ∧ current.record.holder = identity := by
  cases deals with
  | read =>
    refine ⟨_, rfl, ?_⟩
    rintro _ ⟨⟩
    by_cases own : ∃ current, duty.lock = some current ∧ current.record.holder = identity
    · exact .inr own
    · refine .inl fun _ versioned present => ?_
      have foreign : versioned.record.holder ≠ identity :=
        fun same => own ⟨versioned, present, same⟩
      simp [Versioned.isHeldBy, foreign]
  | refuse _ fault => exact ⟨_, rfl, nofun⟩

/-- What a lock does with the write of a release frees it, or is a fault. -/
theorem cleared_of_write
    {identity version : String}
    {released : Record}
    {lock : Option Versioned}
    {reply : LockReply}
    (vacated : released.holder = "")
    (deals : LockDeals duty.lock (.update released version) lock reply) :
    ∃ result, reply = .written result ∧
      (result = .ok () →
        Cleared identity
          { duty with lock, pending := some (.update released version, some reply) }) := by
  cases deals with
  | update current _ version' result present =>
    refine ⟨result, rfl, fun _ _ => ?_⟩
    rintro _ ⟨⟩
    simp [Versioned.isHeldBy, Record.isHeld, vacated]
  | refuse _ fault =>
    refine ⟨_, rfl, ?_⟩
    rintro ⟨⟩

/-- A call that was given up does not make the lock less free without being noted. -/
theorem Cleared.serveAbandoned
    {identity : String}
    {lock : Option Versioned}
    (cleared : duty.Cleared identity)
    (released : duty.isReleased = true) :
    Cleared identity
      { duty with
        lock
        isOvertaken := duty.isOvertaken || (duty.isReleased && decide (lock ≠ duty.lock)) } := by
  intro overtaken
  simp only [released, Bool.true_and, Bool.or_eq_false_iff, decide_eq_false_iff_not,
    not_not] at overtaken
  obtain ⟨before, rfl⟩ := overtaken
  exact cleared before

/-- A loss that the watcher sees is an order to stop. -/
theorem after_lossSeen {clock : Timestamp} (lost : duty.supervision.lost = true) :
    duty.tell.after clock .lossSeen =
      (duty.ordered duty.fired duty.supervision.shutDown).after clock (.run .shutDown) := by
  unfold Duty.after Supervision.step
  dsimp only
  rw [if_pos (show duty.tell.supervision.lost = true from lost)]
  rfl

theorem isSome_fire (duty : Duty) : duty.fire.fired.isSome = true := by
  simp [fire]

/-- Only the first loss or order to stop is remembered. -/
theorem fired_eq_or_of_fire
    {time : Nat}
    (happened : duty.fire.fired = some time) :
    duty.fired = some time ∨ duty.fired = none ∧ time = duty.now := by
  unfold fire at happened
  cases before : duty.fired with
  | none => exact .inr ⟨rfl, by simpa [before] using happened.symm⟩
  | some _ => exact .inl (by simpa [before] using happened)

namespace Sound

theorem refuse
    {problem : SettingsProblem}
    (sound : duty.Sound setup)
    (refused : setup.problem? = some problem) :
    Sound setup { duty with returned := some (.error (.configuration problem)) } := by
  cases ours : setup.ballot with
  | none => simp [Setup.problem?, ours] at refused
  | some ballot =>
    obtain ⟨candidacy, kept⟩ := exists_kept sound ours
    have idle := kept.idle_of_refused refused
    obtain ⟨engaged, obeys, asks, -, stands⟩ := kept
    obtain ⟨phase, leadership, observed, shutDown⟩ := candidacy
    obtain rfl : phase = .idle := idle
    cases stands with
    | seeking seeks unheld still stood =>
      refine sound_of_kept ours (sound.base.finish _)
        ⟨engaged, obeys, asks, ?_, .seeking seeks unheld still stood⟩
      rintro _ ⟨⟩
      exact ⟨problem, refused, rfl⟩
    | leading active => cases active

theorem serve
    {call : LockCall}
    {lock : Option Versioned}
    {reply : LockReply}
    (sound : duty.Sound setup)
    (pending : duty.pending = some (call, none))
    (deals : LockDeals duty.lock call lock reply) :
    Sound setup { duty with lock, pending := some (call, some reply) } := by
  have idles : Idles duty { duty with lock, pending := some (call, some reply) } :=
    ⟨rfl, rfl, rfl, rfl, rfl, .inl rfl, by rw [pending]; rfl⟩
  refine idles.sound sound (sound.base.frame ..) ?_ ?_ (fun rests => ?_)
  · rintro ballot release - - releases
    cases release with
    | reading =>
      obtain ⟨answer, asked, -⟩ := releases
      obtain ⟨rfl, rfl⟩ : LockCall.get = call ∧ answer = none := by simpa [asked] using pending
      refine ⟨some reply, rfl, ?_⟩
      rintro _ ⟨⟩
      exact cleared_of_read deals
    | writing released =>
      obtain ⟨vacated, version, answer, asked, -⟩ := releases
      obtain ⟨rfl, rfl⟩ : LockCall.update released version = call ∧ answer = none := by
        simpa [asked] using pending
      refine ⟨vacated, version, some reply, rfl, ?_⟩
      rintro _ ⟨⟩
      exact cleared_of_write vacated deals
  · intro ballot ours finished
    obtain ⟨candidacy, kept⟩ := exists_kept sound ours
    have asks := kept.asks
    obtain done : candidacy.phase = .done := by simpa [phase?, kept.engaged] using finished
    simp [done, pending, Phase.isAsking] at asks
  · cases rests.symm.trans pending

theorem serveAbandoned
    (sound : duty.Sound setup)
    (lock : Option Versioned) :
    Sound setup
      { duty with
        lock
        isOvertaken := duty.isOvertaken || (duty.isReleased && decide (lock ≠ duty.lock)) } := by
  have idles : Idles duty
      { duty with
        lock
        isOvertaken := duty.isOvertaken || (duty.isReleased && decide (lock ≠ duty.lock)) } :=
    ⟨rfl, rfl, rfl, rfl, rfl, .inl rfl, rfl⟩
  refine idles.sound sound (sound.base.frame ..) ?_ ?_ id
  · intro ballot release _ phase releases
    refine releases_of_cleared releases rfl fun call reply answered cleared => ?_
    exact cleared.serveAbandoned (by simp [isReleased, phase, answered])
  · intro ballot _ finished cleared
    exact cleared.serveAbandoned (by simp [isReleased, finished])

theorem foreign
    {lock : Option Versioned}
    (sound : duty.Sound setup)
    (others : ∀ ballot ∈ setup.ballot, IsFreeOf ballot.identity lock) :
    Sound setup { duty with lock } := by
  have idles : Idles duty { duty with lock } := ⟨rfl, rfl, rfl, rfl, rfl, .inl rfl, rfl⟩
  refine idles.sound sound (sound.base.frame ..) ?_ ?_ id
  · intro ballot release ours _ releases
    exact releases_of_cleared releases rfl fun _ _ _ _ _ => others ballot ours
  · intro ballot ours _ _ _
    exact others ballot ours

theorem wait
    {moment : Nat}
    (sound : duty.Sound setup)
    (later : duty.now ≤ moment)
    (seen : duty.returned = none → duty.supervision.lost = true → duty.told.isSome = true) :
    Sound setup { duty with now := moment } := by
  have timely := sound.base.timely
  have idles : Idles duty { duty with now := moment } := ⟨rfl, rfl, rfl, rfl, rfl, .inl rfl, rfl⟩
  refine idles.sound sound
    ⟨⟨timely.fired, ?_, ?_, ?_⟩, sound.base.dropped, sound.base.watching, sound.base.settled⟩
    ?_ ?_ id
  · intro time happened
    exact Nat.le_trans (timely.past time happened) later
  · intro running untold time happened
    have told := seen running (timely.unseen running untold time happened).2
    simp [show duty.told = none from untold] at told
  · intro stint works moment cancelled
    obtain ⟨past, prompt⟩ := timely.cancelled stint works moment cancelled
    exact ⟨Nat.le_trans past later, prompt⟩
  · intro ballot release _ _ releases
    exact releases_of_cleared releases rfl fun _ _ _ cleared => cleared
  · intro ballot _ _ cleared
    exact cleared

theorem lose
    {clock : Timestamp}
    (sound : duty.Sound setup)
    (running : duty.returned = none)
    (watching : setup.isWatching = true) :
    Sound setup (duty.fire.after clock .lost) := by
  have timely := sound.base.timely
  have lost : duty.supervision.isWatching = true := sound.base.watching.trans watching
  have idles : Idles duty (duty.fire.after clock .lost) :=
    ⟨rfl, rfl, rfl, rfl, rfl, .inr running, rfl⟩
  refine idles.sound sound
    ⟨⟨?_, ?_, ?_, ?_⟩, sound.base.dropped, sound.base.watching, sound.base.settled⟩
    ?_ ?_ id
  · intro _
    exact duty.isSome_fire
  · intro time happened
    obtain before | ⟨-, rfl⟩ := fired_eq_or_of_fire happened
    · exact timely.past time before
    · exact Nat.le_refl _
  · intro _ untold time happened
    refine ⟨?_, lost⟩
    obtain before | ⟨-, rfl⟩ := fired_eq_or_of_fire happened
    · exact (timely.unseen running untold time before).1
    · rfl
  · intro stint works moment cancelled
    obtain ⟨past, prompt⟩ := timely.cancelled stint works moment cancelled
    refine ⟨past, fun time happened => ?_⟩
    obtain before | ⟨-, rfl⟩ := fired_eq_or_of_fire happened
    · exact prompt time before
    · exact .inl past
  · intro ballot release _ _ releases
    exact releases_of_cleared releases rfl fun _ _ _ cleared => cleared
  · intro ballot _ _ cleared
    exact cleared

end Sound

/-! ## A run without an election -/

section Alone

variable {unguarded : Unguarded} {clock : Timestamp}

/-- Time does not matter to a run without an election. -/
theorem step_tick (unguarded : Unguarded) : unguarded.step .tick = (unguarded, []) := by
  cases unguarded with
  | idle shutDown => cases shutDown <;> rfl
  | working | stopping | done => rfl

theorem after_run_alone
    (alone : duty.supervision.engagement = .alone unguarded)
    (clock : Timestamp)
    (event : ElectionEvent) :
    duty.after clock (.run event) =
      (unguarded.step event).2.foldl act
        { duty with
          supervision :=
            { duty.supervision with engagement := .alone (unguarded.step event).1 } } := by
  unfold Duty.after perform Supervision.step Supervision.advance Engagement.step
  simp only [alone]

theorem sound_of_solo
    (single : setup.ballot = none)
    (base : duty.Base setup)
    (alone : duty.supervision.engagement = .alone unguarded)
    (rests : duty.pending = none)
    (solo : duty.Solo unguarded) :
    duty.Sound setup := by
  refine ⟨base, ?_⟩
  rw [single]
  exact ⟨unguarded, alone, rests, solo⟩

theorem exists_solo
    (sound : duty.Sound setup)
    (single : setup.ballot = none) :
    ∃ unguarded, duty.supervision.engagement = .alone unguarded ∧ duty.pending = none ∧
      duty.Solo unguarded := by
  have engaged := sound.engaged
  rw [single] at engaged
  exact engaged

namespace Solo

theorem start
    {shutDown : Bool}
    (solo : duty.Solo (.idle shutDown))
    (base : duty.Base setup)
    (single : setup.ballot = none)
    (alone : duty.supervision.engagement = .alone (.idle shutDown))
    (rests : duty.pending = none) :
    Sound setup (duty.after clock (.run .start)) := by
  rw [after_run_alone alone]
  have started := (base.engage (.alone .stopping)).startWork
  cases solo with
  | idle obeys still running =>
    cases shutDown with
    | false =>
      have untold : duty.told = none := by simpa using obeys.symm
      exact sound_of_solo single (base.engage (.alone .working)).startWork rfl rests
        (.working rfl running untold)
    | true =>
      exact sound_of_solo single (started.cancelWork rfl fun _ _ => .inr rfl) rfl rests
        (.stopping rfl running obeys.symm)

theorem workEnds
    (solo : duty.Solo unguarded)
    (base : duty.Base setup)
    (single : setup.ballot = none)
    (alone : duty.supervision.engagement = .alone unguarded)
    (rests : duty.pending = none)
    (working : duty.work.isSome = true) :
    Sound setup (duty.endWork.after clock (.run .workEnded)) := by
  rw [after_run_alone (show duty.endWork.supervision.engagement = _ from alone)]
  have finished := (base.endWork.engage (.alone .done)).finish
  cases solo with
  | working => exact sound_of_solo single (finished _) rfl rests (.done rfl rfl)
  | stopping => exact sound_of_solo single (finished _) rfl rests (.done rfl rfl)
  | idle _ still | done still =>
    rw [still] at working
    cases working

theorem order
    {fired : Option Nat}
    {flag : Bool}
    (solo : duty.Solo unguarded)
    (base : duty.Base setup)
    (single : setup.ballot = none)
    (alone : duty.supervision.engagement = .alone unguarded)
    (rests : duty.pending = none)
    (running : duty.returned = none)
    (isFired : fired.isSome = true)
    (first : ∀ time, fired = some time →
      duty.fired = some time ∨ duty.fired = none ∧ time = duty.now) :
    Sound setup ((duty.ordered fired flag).after clock (.run .shutDown)) := by
  have base' : (duty.ordered fired flag).Base setup := base.ordered isFired first
  have told : (duty.ordered fired flag).told.isSome = true := told_ordered
  rw [after_run_alone (show (duty.ordered fired flag).supervision.engagement = _ from alone)]
  cases solo with
  | @idle shutDown _ still =>
    cases shutDown <;>
      exact sound_of_solo single (base'.engage _) rfl rests (.idle told.symm still running)
  | @working began works _ untold =>
    have prompt (time : Nat) (happened : fired = some time) : duty.now ≤ time := by
      obtain before | ⟨-, rfl⟩ := first time happened
      · exact Nat.le_of_eq (base.timely.unseen running untold time before).1
      · exact Nat.le_refl _
    have cancels : ((duty.ordered fired flag).act .cancelWork).work =
        some ⟨began, some duty.now⟩ := by
      simp [act, ordered, tell, works]
    exact sound_of_solo single
      ((base'.engage (.alone .stopping)).cancelWork works fun time happened =>
        .inl (prompt time happened)) rfl rests (.stopping cancels running told)
  | stopping works =>
    exact sound_of_solo single (base'.engage _) rfl rests (.stopping works running told)
  | done _ finished => cases running.symm.trans finished

end Solo

end Alone

/-! ## All that a run may come to -/

section Runs

variable {clock : Timestamp}

namespace Sound

theorem start
    (sound : duty.Sound setup)
    (running : duty.returned = none)
    (admitted : setup.problem? = none)
    (idle : duty.isIdle = true) :
    Sound setup (duty.after clock (.run .start)) := by
  cases ours : setup.ballot with
  | none =>
    obtain ⟨unguarded, alone, rests, solo⟩ := exists_solo sound ours
    obtain ⟨shutDown, rfl⟩ : ∃ shutDown, unguarded = .idle shutDown := by
      cases solo <;> simp_all [isIdle]
    exact solo.start sound.base ours alone rests
  | some ballot =>
    obtain ⟨candidacy, kept⟩ := exists_kept sound ours
    exact kept.start sound.base ours running admitted (kept.phase_of_isIdle idle)

theorem answer
    {call : LockCall}
    {reply : LockReply}
    (sound : duty.Sound setup)
    (running : duty.returned = none)
    (pending : duty.pending = some (call, some reply)) :
    let next := (duty.hear reply).after clock (.run (.reply reply))
    next.Sound setup ∨ next.Broken setup ∧ duty.ReadsFull setup := by
  cases ours : setup.ballot with
  | none =>
    obtain ⟨unguarded, -, rests, -⟩ := exists_solo sound ours
    cases rests.symm.trans pending
  | some ballot =>
    obtain ⟨candidacy, kept⟩ := exists_kept sound ours
    refine (kept.reply sound.base ours running pending).imp_right ?_
    rintro ⟨broken, full⟩
    exact ⟨broken, ballot, ours, call, reply, pending, full⟩

theorem workEnds
    (sound : duty.Sound setup)
    (running : duty.returned = none)
    (working : duty.work.isSome = true) :
    Sound setup (duty.endWork.after clock (.run .workEnded)) := by
  cases ours : setup.ballot with
  | none =>
    obtain ⟨unguarded, alone, rests, solo⟩ := exists_solo sound ours
    exact solo.workEnds sound.base ours alone rests working
  | some ballot =>
    obtain ⟨candidacy, kept⟩ := exists_kept sound ours
    exact kept.workEnds sound.base ours running working

theorem tick
    (sound : duty.Sound setup)
    (running : duty.returned = none) :
    Sound setup (duty.after clock (.run .tick)) := by
  cases ours : setup.ballot with
  | none =>
    obtain ⟨unguarded, alone, rests, solo⟩ := exists_solo sound ours
    have unchanged : duty.after clock (.run .tick) = duty := by
      rw [after_run_alone alone, step_tick, ← alone]
      rfl
    rwa [unchanged]
  | some ballot =>
    obtain ⟨candidacy, kept⟩ := exists_kept sound ours
    exact kept.tick sound.base ours running

theorem order
    {fired : Option Nat}
    {flag : Bool}
    (sound : duty.Sound setup)
    (running : duty.returned = none)
    (isFired : fired.isSome = true)
    (first : ∀ time, fired = some time →
      duty.fired = some time ∨ duty.fired = none ∧ time = duty.now) :
    Sound setup ((duty.ordered fired flag).after clock (.run .shutDown)) := by
  cases ours : setup.ballot with
  | none =>
    obtain ⟨unguarded, alone, rests, solo⟩ := exists_solo sound ours
    exact solo.order sound.base ours alone rests running isFired first
  | some ballot =>
    obtain ⟨candidacy, kept⟩ := exists_kept sound ours
    rw [after_run (show (duty.ordered fired flag).supervision.engagement = _ from kept.engaged)]
    exact kept.order sound.base ours running isFired first

/-- One step keeps what is known of a run, unless it brings the run a record over which it breaks
down. -/
theorem step
    (sound : duty.Sound setup)
    (step : Step setup duty next) :
    next.Sound setup ∨ next.Broken setup ∧ duty.ReadsFull setup := by
  cases step with
  | reacts reaction =>
    cases reaction with
    | refuse problem _ refused => exact .inl (sound.refuse refused)
    | start clock running admitted idle => exact .inl (sound.start running admitted idle)
    | serve call lock reply pending deals => exact .inl (sound.serve pending deals)
    | answer clock call reply running pending => exact sound.answer running pending
    | workEnds clock running working => exact .inl (sound.workEnds running working)
  | tick clock running => exact .inl (sound.tick running)
  | shutDown clock running =>
    exact .inl
      (sound.order running duty.isSome_fire fun time happened => fired_eq_or_of_fire happened)
  | lose clock running watching => exact .inl (sound.lose running watching)
  | seeLoss clock running lost =>
    have isFired := sound.base.timely.fired (.inr lost)
    rw [after_lossSeen lost]
    exact .inl (sound.order running isFired fun time happened => .inl happened)
  | serveAbandoned call lock reply => exact .inl (sound.serveAbandoned lock)
  | foreign lock others => exact .inl (sound.foreign others)
  | wait moment later _ seen => exact .inl (sound.wait later seen)

/-- A run of which everything is known did not break down: its candidate came to an end only
together with it. -/
theorem isBroken_eq_false (sound : duty.Sound setup) : duty.isBroken = false := by
  cases ours : setup.ballot with
  | none =>
    obtain ⟨unguarded, alone, -, -⟩ := exists_solo sound ours
    simp [isBroken, phase?, alone]
  | some ballot =>
    obtain ⟨candidacy, kept⟩ := exists_kept sound ours
    have returns := kept.returns
    have stage : duty.phase? = some candidacy.phase := by simp [phase?, kept.engaged]
    by_cases ended : candidacy.phase = .done
    · rw [ended] at returns
      simp [isBroken, returns.2]
    · simp [isBroken, stage, ended]

end Sound

/-! ## A run that broke down -/

/-- Nothing happens to a candidate that is at an end. -/
theorem Candidacy.step_of_done
    {candidacy : Candidacy}
    (done : candidacy.phase = .done)
    (candidate : Candidate)
    (now : Moment)
    (event : ElectionEvent) :
    (candidacy.step candidate now event).1.phase = .done ∧
      (candidacy.step candidate now event).2 = [] := by
  obtain ⟨phase, leadership, observed, shutDown⟩ := candidacy
  obtain rfl : phase = .done := done
  cases event <;> exact ⟨rfl, rfl⟩

namespace Broken

theorem exists_engagement (broken : duty.Broken setup) :
    ∃ candidate candidacy, duty.supervision.engagement = .elected candidate candidacy ∧
      candidacy.phase = .done := by
  have stage := broken.stage
  unfold phase? at stage
  split at stage
  · cases stage
  · next candidate candidacy engaged => exact ⟨candidate, candidacy, engaged, by simpa using stage⟩

theorem after
    (broken : duty.Broken setup)
    (clock : Timestamp)
    (event : ElectionEvent) :
    (duty.after clock (.run event)).Broken setup := by
  obtain ⟨candidate, candidacy, engaged, done⟩ := broken.exists_engagement
  obtain ⟨ended, still⟩ := Candidacy.step_of_done done candidate ⟨duty.now, clock⟩ event
  rw [after_run engaged, go, still]
  exact ⟨broken.admitted, broken.running, broken.rests, broken.still,
    by simpa [phase?] using ended, broken.settled⟩

/-- An order to stop comes too late for a run that broke down. -/
theorem order
    (broken : duty.Broken setup)
    (fired : Option Nat)
    (flag : Bool) :
    (duty.ordered fired flag).Broken setup := by
  obtain ⟨candidate, candidacy, engaged, done⟩ := broken.exists_engagement
  refine ⟨broken.admitted, broken.running, broken.rests, broken.still, broken.stage, ?_⟩
  intro stood
  cases told : duty.told with
  | none =>
    rw [hadLost?_ordered_of_untold engaged told, done] at stood
    simp [Phase.hasLost] at stood
  | some engagement =>
    rw [hadLost?_ordered_of_told (by rw [told]; rfl)] at stood
    exact broken.settled stood

/-- A run that broke down waits for nothing. -/
theorem not_reaction (broken : duty.Broken setup) : ¬ Reaction setup duty next := by
  intro reaction
  cases reaction with
  | refuse problem _ refused => cases broken.admitted.symm.trans refused
  | start clock _ _ idle =>
    obtain ⟨candidate, candidacy, engaged, done⟩ := broken.exists_engagement
    obtain ⟨phase, leadership, observed, shutDown⟩ := candidacy
    obtain rfl : phase = .done := done
    simp [isIdle, engaged] at idle
  | serve call lock reply pending => cases broken.rests.symm.trans pending
  | answer clock call reply _ pending => cases broken.rests.symm.trans pending
  | workEnds clock _ working => simp [broken.still] at working

/-- Nothing that happens mends a run that broke down. -/
theorem step
    (broken : duty.Broken setup)
    (step : Step setup duty next) :
    next.Broken setup := by
  have frame (next : Duty)
      (engaged : next.supervision.engagement = duty.supervision.engagement)
      (same : (next.returned, next.pending, next.work, next.told, next.calls) =
        (duty.returned, duty.pending, duty.work, duty.told, duty.calls)) :
      next.Broken setup := by
    simp only [Prod.mk.injEq] at same
    obtain ⟨returned, pending, work, told, calls⟩ := same
    exact ⟨broken.admitted, returned.trans broken.running, pending.trans broken.rests,
      work.trans broken.still, by simpa [phase?, engaged] using broken.stage,
      by simpa [hadLost?, told, calls] using broken.settled⟩
  cases step with
  | reacts reaction => exact absurd reaction broken.not_reaction
  | tick clock => exact broken.after clock .tick
  | shutDown clock => exact (broken.order duty.fire.fired true).after clock .shutDown
  | seeLoss clock _ lost =>
    rw [after_lossSeen lost]
    exact (broken.order ..).after clock .shutDown
  | lose | serveAbandoned | foreign | wait => exact frame _ rfl rfl

end Broken

/-! ## Every run -/

theorem sound_opening (setup : Setup) (lock : Option Versioned) :
    (opening setup lock).Sound setup := by
  have base : (opening setup lock).Base setup := by
    refine ⟨⟨?_, nofun, nofun, nofun⟩, nofun, rfl, fun _ => rfl⟩
    simp [opening, Supervision.idle]
  cases ours : setup.ballot with
  | none =>
    exact sound_of_solo ours base (by simp [opening, Supervision.idle, ours]) rfl
      (.idle rfl rfl rfl)
  | some ballot =>
    have stands : Stands ballot.candidate (opening setup lock) ⟨.idle, .unheld, none, false⟩ :=
      .seeking (.inl rfl) nofun rfl rfl
    have engaged : (opening setup lock).supervision.engagement =
        .elected ballot.candidate .idle := by
      simp [opening, Supervision.idle, ours]
    exact sound_of_kept ours base ⟨engaged, rfl, rfl, nofun, stands⟩

/-- What is known of a run holds of all that it may come to, unless it broke down. -/
theorem Reachable.sound_or_broken (reachable : Reachable setup duty) :
    duty.Sound setup ∨ duty.Broken setup := by
  obtain ⟨lock, steps⟩ := reachable
  induction steps with
  | refl => exact .inl (sound_opening setup lock)
  | tail _ step inductionHypothesis =>
    obtain sound | broken := inductionHypothesis
    · exact (sound.step step).imp_right And.left
    · exact .inr (broken.step step)

end Runs

end Duty

end VolumeAttacher
