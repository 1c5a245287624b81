import VolumeAttacher.Proofs.Election.Duty
import VolumeAttacher.Proofs.Election.Entitlement

/-!
# What holds throughout a duty

In every phase of a run it is known whether the procedure works and whether its token is cancelled,
which call is pending, whether the lock is free once the release was answered, and how the candidate
stood when it was told to stop. Each of the few things that a candidate does keeps all of this.
-/

namespace VolumeAttacher

theorem LockReply.isFull_of_answer
    {candidate : Candidate}
    {observed observed' : Option Observation}
    {attempt : Attempt}
    {now : Moment}
    {reply : LockReply}
    (answer : attempt.answer candidate observed now reply = (observed', .overflow)) :
    reply.isFull candidate = true := by
  obtain ⟨current, rfl, -, -, full⟩ := Attempt.eq_of_answer_overflow answer
  exact full

namespace Duty

variable {setup : Setup} {ballot : Ballot} {candidate : Candidate} {duty : Duty}

/-! ## What is known -/

/-- Whether the candidate had already lost the lock when it was told to stop, if it stood as its
holder then. -/
def hadLost? (duty : Duty) : Option Bool :=
  match duty.told with
  | some (.elected _ candidacy) =>
    if candidacy.leadership = .held then some candidacy.phase.hasLost else none
  | _ => none

theorem hadLost?_engage (duty : Duty) (supervision : Supervision) :
    Duty.hadLost? { duty with supervision } = duty.hadLost? :=
  rfl

/-- Losses and orders to stop are remembered, and tokens are cancelled at once. -/
structure Timely (duty : Duty) : Prop where
  fired : duty.told.isSome = true ∨ duty.supervision.lost = true → duty.fired.isSome = true
  past : ∀ time, duty.fired = some time → time ≤ duty.now
  unseen : duty.returned = none → duty.told = none → ∀ time, duty.fired = some time →
    duty.now = time ∧ duty.supervision.lost = true
  cancelled : ∀ stint, duty.work = some stint → ∀ moment, stint.cancelled = some moment →
    moment ≤ duty.now ∧ ∀ time, duty.fired = some time → moment ≤ time ∨ moment = stint.began

/-- An invocation that was dropped had the time that it may take to stop. -/
def HadGrace (setup : Setup) (drop : Stint × Nat) : Prop :=
  ∃ ballot ∈ setup.ballot, ∃ cancelled ∈ drop.1.cancelled,
    cancelled + ballot.entry.timing.grace.nanos ≤ drop.2

/-- What holds in every phase. -/
structure Base (setup : Setup) (duty : Duty) : Prop where
  timely : duty.Timely
  dropped : ∀ drop ∈ duty.drops, HadGrace setup drop
  watching : duty.supervision.isWatching = setup.isWatching
  settled : duty.told = none ∨ duty.hadLost? = some true → duty.calls = []

/-- When a run of a phase returned, and how. -/
def Returns (setup : Setup) (duty : Duty) : Phase → Prop
  | .idle => ∀ result, duty.returned = some result →
    ∃ problem, setup.problem? = some problem ∧ result = .error (.configuration problem)
  | .done => setup.problem? = none ∧ duty.returned = some duty.supervision.result
  | _ => setup.problem? = none ∧ duty.returned = none

/-- The lock is free unless something went wrong with its release. -/
def Cleared (identity : String) (duty : Duty) : Prop :=
  duty.isOvertaken = false → IsFreeOf identity duty.lock

/-- What a call that is to release the lock, and the answer to it, say about the lock. -/
def Releases (identity : String) (duty : Duty) : Release → Prop
  | .reading => ∃ answer, duty.pending = some (.get, answer) ∧
    ∀ reply, answer = some reply → ∃ result, reply = .got result ∧
      ∀ found, result = .ok found →
        duty.Cleared identity ∨ ∃ current, found = some current ∧ current.record.holder = identity
  | .writing released => released.holder = "" ∧
    ∃ version answer, duty.pending = some (.update released version, answer) ∧
    ∀ reply, answer = some reply → ∃ result, reply = .written result ∧
      (result = .ok () → duty.Cleared identity)

/-- How the procedure, the release of the lock and the order to stop fit a candidate's phase. -/
inductive Stands (candidate : Candidate) (duty : Duty) : Candidacy → Prop
  /-- It does not hold the lock yet. -/
  | seeking {phase leadership observed shutDown}
      (seeks : phase = .idle ∨ (∃ attempt, phase = .acquiring attempt) ∨
        shutDown = false ∧ ∃ wake, phase = .pausing wake)
      (unheld : leadership ≠ .held)
      (still : duty.work = none)
      (stood : duty.hadLost? = none) :
    Stands candidate duty ⟨phase, leadership, observed, shutDown⟩
  /-- It holds the lock and works. -/
  | leading {phase observed began}
      (active : phase.isActive = true)
      (works : duty.work = some ⟨began, none⟩) :
    Stands candidate duty ⟨phase, .held, observed, false⟩
  | stopping {ending observed shutDown began cancelled}
      (works : duty.work = some ⟨began, some cancelled⟩)
      (stood : ∀ lost, duty.hadLost? = some lost → lost = decide (ending = .lost)) :
    Stands candidate duty
      ⟨.stopping ending (cancelled + candidate.timing.grace.nanos), .held, observed, shutDown⟩
  | releasing {release observed shutDown}
      (still : duty.work = none)
      (stood : ∀ lost, duty.hadLost? = some lost → lost = false)
      (releases : duty.Releases candidate.identity release) :
    Stands candidate duty ⟨.releasing release, .held, observed, shutDown⟩
  /-- It stopped without holding the lock, or after it had lost it. -/
  | withdrawn {observed}
      (still : duty.work = none)
      (stood : ∀ lost, duty.hadLost? = some lost → lost = true) :
    Stands candidate duty ⟨.done, .unheld, observed, true⟩
  /-- It released the lock. -/
  | retired {observed shutDown}
      (still : duty.work = none)
      (stood : ∀ lost, duty.hadLost? = some lost → lost = false)
      (cleared : duty.isRefused = false → duty.Cleared candidate.identity) :
    Stands candidate duty ⟨.done, .released, observed, shutDown⟩

/-- What holds of a run behind an election. -/
structure Kept (setup : Setup) (ballot : Ballot) (candidacy : Candidacy) (duty : Duty) : Prop where
  engaged : duty.supervision.engagement = .elected ballot.candidate candidacy
  obeys : candidacy.shutDown = duty.told.isSome
  asks : candidacy.phase.isAsking = duty.pending.isSome
  returns : duty.Returns setup candidacy.phase
  stands : Stands ballot.candidate duty candidacy

/-- What holds of a run without an election. -/
inductive Solo (duty : Duty) : Unguarded → Prop
  | idle {shutDown}
      (obeys : shutDown = duty.told.isSome)
      (still : duty.work = none)
      (running : duty.returned = none) :
    Solo duty (.idle shutDown)
  | working {began}
      (works : duty.work = some ⟨began, none⟩)
      (running : duty.returned = none)
      (untold : duty.told = none) :
    Solo duty .working
  | stopping {began cancelled}
      (works : duty.work = some ⟨began, some cancelled⟩)
      (running : duty.returned = none)
      (told : duty.told.isSome = true) :
    Solo duty .stopping
  | done
      (still : duty.work = none)
      (finished : duty.returned = some duty.supervision.result) :
    Solo duty .done

/-- What is known of a run throughout. -/
structure Sound (setup : Setup) (duty : Duty) : Prop where
  base : duty.Base setup
  engaged :
    match setup.ballot with
    | some ballot => ∃ candidacy, duty.Kept setup ballot candidacy
    | none => ∃ unguarded, duty.supervision.engagement = .alone unguarded ∧ duty.pending = none ∧
      duty.Solo unguarded

/-- What is known of a run that broke down. -/
structure Broken (setup : Setup) (duty : Duty) : Prop where
  admitted : setup.problem? = none
  running : duty.returned = none
  rests : duty.pending = none
  still : duty.work = none
  stage : duty.phase? = some .done
  settled : duty.hadLost? = some true → duty.calls = []

theorem Broken.isBroken (broken : duty.Broken setup) : duty.isBroken = true := by
  simp [Duty.isBroken, broken.stage, broken.running]

/-! ## Performing what a candidate does -/

/-- The candidate goes through a step. -/
def go (duty : Duty) (candidate : Candidate) (step : Candidacy.Step) : Duty :=
  step.2.foldl act
    { duty with supervision := { duty.supervision with engagement := .elected candidate step.1 } }

theorem go_after (duty : Duty) (candidate : Candidate) (actions : List ElectionAction)
    (step : Candidacy.Step) :
    duty.go candidate (Candidacy.after actions step) =
      (actions.foldl act duty).go candidate step := by
  have commutes (duty : Duty) (engagement : Engagement) (action : ElectionAction) :
      act { duty with supervision := { duty.supervision with engagement } } action =
        { duty.act action with
            supervision := { (duty.act action).supervision with engagement } } := by
    cases action <;> rfl
  unfold go Candidacy.after
  rw [List.foldl_append]
  congr 1
  induction actions generalizing duty with
  | nil => rfl
  | cons action rest inductionHypothesis =>
    rw [List.foldl_cons, List.foldl_cons, ← inductionHypothesis, commutes]

theorem go_publish (duty : Duty) (candidate : Candidate) (candidacy : Candidacy)
    (leadership : Leadership) (next : Candidacy → Candidacy.Step) :
    duty.go candidate (candidacy.publish leadership next) =
      duty.go candidate (next { candidacy with leadership }) :=
  duty.go_after candidate _ _

theorem after_run {candidacy : Candidacy}
    (engaged : duty.supervision.engagement = .elected candidate candidacy)
    (clock : Timestamp)
    (event : ElectionEvent) :
    duty.after clock (.run event) =
      duty.go candidate (candidacy.step candidate ⟨duty.now, clock⟩ event) := by
  unfold Duty.after perform go Supervision.step Supervision.advance Engagement.step
  simp only [engaged]

/-! ## What every action keeps -/

theorem hadLost?_of_untold (untold : duty.told = none) : duty.hadLost? = none := by
  rw [hadLost?, untold]

theorem sound_of_kept
    {candidacy : Candidacy}
    (ours : setup.ballot = some ballot)
    (base : duty.Base setup)
    (kept : duty.Kept setup ballot candidacy) :
    duty.Sound setup := by
  refine ⟨base, ?_⟩
  rw [ours]
  exact ⟨candidacy, kept⟩

theorem exists_kept
    (sound : duty.Sound setup)
    (ours : setup.ballot = some ballot) :
    ∃ candidacy, duty.Kept setup ballot candidacy := by
  have engaged := sound.engaged
  rw [ours] at engaged
  exact engaged

namespace Base

theorem ask
    {call : LockCall}
    (base : duty.Base setup)
    (stood : duty.hadLost? ≠ some true) :
    (duty.act (.ask call)).Base setup where
  timely := ⟨base.timely.fired, base.timely.past, base.timely.unseen, base.timely.cancelled⟩
  dropped := base.dropped
  watching := base.watching
  settled := by
    rintro (untold | lost)
    · change duty.told = none at untold
      simp [act, untold, base.settled (.inl untold)]
    · exact absurd lost stood

/-- Neither the lock and its calls matter nor how the procedure is run. -/
theorem frame
    (base : duty.Base setup)
    (engagement : Engagement)
    (lock : Option Versioned)
    (pending : Option (LockCall × Option LockReply))
    (abandoned : List LockCall)
    (isRefused isOvertaken : Bool) :
    Base setup
      { duty with
        supervision := { duty.supervision with engagement }
        lock, pending, abandoned, isRefused, isOvertaken } where
  timely := ⟨base.timely.fired, base.timely.past, base.timely.unseen, base.timely.cancelled⟩
  dropped := base.dropped
  watching := base.watching
  settled := base.settled

theorem engage (base : duty.Base setup) (engagement : Engagement) :
    Base setup { duty with supervision := { duty.supervision with engagement } } :=
  base.frame ..

theorem abandonCall (base : duty.Base setup) : (duty.act .abandonCall).Base setup :=
  base.frame ..

theorem hear (base : duty.Base setup) (reply : LockReply) : (duty.hear reply).Base setup :=
  base.frame ..

theorem startWork (base : duty.Base setup) : (duty.act .startWork).Base setup where
  timely := by
    refine ⟨base.timely.fired, base.timely.past, base.timely.unseen, ?_⟩
    rintro _ ⟨⟩ _ ⟨⟩
  dropped := base.dropped
  watching := base.watching
  settled := base.settled

theorem cancelWork
    {began : Nat}
    {cancelled : Option Nat}
    (base : duty.Base setup)
    (works : duty.work = some ⟨began, cancelled⟩)
    (prompt : ∀ time, duty.fired = some time → duty.now ≤ time ∨ duty.now = began) :
    (duty.act .cancelWork).Base setup where
  timely := by
    refine ⟨base.timely.fired, base.timely.past, base.timely.unseen, ?_⟩
    simp only [act, works, Option.map_some]
    rintro _ ⟨⟩ _ ⟨⟩
    exact ⟨Nat.le_refl _, prompt⟩
  dropped := base.dropped
  watching := base.watching
  settled := base.settled

theorem dropWork
    {stint : Stint}
    (base : duty.Base setup)
    (works : duty.work = some stint)
    (grace : HadGrace setup (stint, duty.now)) :
    (duty.act .dropWork).Base setup where
  timely := ⟨base.timely.fired, base.timely.past, base.timely.unseen, nofun⟩
  dropped := by
    simp only [act, works, Option.map_some, Option.toList_some, List.singleton_append]
    exact List.forall_mem_cons.mpr ⟨grace, base.dropped⟩
  watching := base.watching
  settled := base.settled

theorem finish (base : duty.Base setup) (result : Except Fault Unit) :
    Base setup { duty with returned := some result } where
  timely := ⟨base.timely.fired, base.timely.past, nofun, base.timely.cancelled⟩
  dropped := base.dropped
  watching := base.watching
  settled := base.settled

theorem endWork (base : duty.Base setup) : duty.endWork.Base setup where
  timely := ⟨base.timely.fired, base.timely.past, base.timely.unseen, nofun⟩
  dropped := base.dropped
  watching := base.watching
  settled := base.settled

end Base

/-- The run is told to stop, and what happened before is remembered. -/
def ordered (duty : Duty) (fired : Option Nat) (shutDown : Bool) : Duty :=
  { duty.tell with fired, supervision := { duty.supervision with shutDown } }

section Ordered

variable {fired : Option Nat} {shutDown : Bool}

theorem told_ordered : (duty.ordered fired shutDown).told.isSome = true := by
  unfold ordered tell
  cases duty.told <;> rfl

theorem hadLost?_ordered_of_told (told : duty.told.isSome = true) :
    (duty.ordered fired shutDown).hadLost? = duty.hadLost? := by
  obtain ⟨engagement, told⟩ := Option.isSome_iff_exists.mp told
  simp [hadLost?, ordered, tell, told]

theorem hadLost?_ordered_of_untold
    {candidacy : Candidacy}
    (engaged : duty.supervision.engagement = .elected candidate candidacy)
    (untold : duty.told = none) :
    (duty.ordered fired shutDown).hadLost? =
      if candidacy.leadership = .held then some candidacy.phase.hasLost else none := by
  simp [hadLost?, ordered, tell, untold, engaged]

theorem Base.ordered
    (base : duty.Base setup)
    (isFired : fired.isSome = true)
    (first : ∀ time, fired = some time →
      duty.fired = some time ∨ duty.fired = none ∧ time = duty.now) :
    (duty.ordered fired shutDown).Base setup where
  timely := by
    refine ⟨fun _ => isFired, ?_, ?_, ?_⟩
    · intro time happened
      obtain before | ⟨-, rfl⟩ := first time happened
      · exact base.timely.past time before
      · exact Nat.le_refl _
    · intro _ untold
      have told : (duty.ordered fired shutDown).told.isSome = true := told_ordered
      rw [untold] at told
      cases told
    · intro stint works moment cancelled
      obtain ⟨past, prompt⟩ := base.timely.cancelled stint works moment cancelled
      refine ⟨past, fun time happened => ?_⟩
      obtain before | ⟨-, rfl⟩ := first time happened
      · exact prompt time before
      · exact .inl past
  dropped := base.dropped
  watching := base.watching
  settled := by
    rintro (untold | lost)
    · have told : (duty.ordered fired shutDown).told.isSome = true := told_ordered
      rw [untold] at told
      cases told
    · cases told : duty.told with
      | none => exact base.settled (.inl told)
      | some engagement =>
        rw [hadLost?_ordered_of_told (by rw [told]; rfl)] at lost
        exact base.settled (.inr lost)

end Ordered

/-! ## What a candidate does -/

/-- A candidate that is about to do something, and does not wait for the lock. -/
structure Ready (setup : Setup) (ballot : Ballot) (shutDown : Bool) (duty : Duty) : Prop where
  base : duty.Base setup
  ours : setup.ballot = some ballot
  admitted : setup.problem? = none
  running : duty.returned = none
  obeys : shutDown = duty.told.isSome
  rests : duty.pending = none

section Deeds

variable {phase : Phase} {leadership : Leadership} {observed : Option Observation}
  {shutDown : Bool} {now : Moment} {began : Nat}

namespace Ready

theorem untold (ready : duty.Ready setup ballot false) : duty.told = none := by
  simpa using ready.obeys.symm

theorem unstood (ready : duty.Ready setup ballot false) : duty.hadLost? = none :=
  hadLost?_of_untold ready.untold

end Ready

/-- The candidate withdraws without the lock. -/
theorem sound_withdraw
    (ready : duty.Ready setup ballot true)
    (still : duty.work = none)
    (stood : ∀ lost, duty.hadLost? = some lost → lost = true) :
    Sound setup (duty.go ballot.candidate (Candidacy.mk phase leadership observed true).withdraw) :=
  sound_of_kept ready.ours ((ready.base.engage _).finish _)
    ⟨rfl, ready.obeys, congrArg Option.isSome ready.rests.symm, ⟨ready.admitted, rfl⟩,
      .withdrawn still stood⟩

theorem sound_tryAcquire
    (ready : duty.Ready setup ballot false)
    (unheld : leadership ≠ .held)
    (still : duty.work = none) :
    Sound setup
      (duty.go ballot.candidate ((Candidacy.mk phase leadership observed false).tryAcquire now)) :=
  sound_of_kept ready.ours ((ready.base.engage _).ask (by simp [hadLost?, ready.untold]))
    ⟨rfl, ready.obeys, rfl, ⟨ready.admitted, ready.running⟩,
      .seeking (.inr (.inl ⟨_, rfl⟩)) unheld still ready.unstood⟩

/-- The candidate seeks the lock, if it was not told to stop. -/
theorem sound_acquire
    (ready : duty.Ready setup ballot shutDown)
    (still : duty.work = none)
    (stood : ∀ lost, duty.hadLost? = some lost → lost = true) :
    Sound setup
      (duty.go ballot.candidate
        ((Candidacy.mk phase leadership observed shutDown).acquire now)) := by
  unfold Candidacy.acquire
  rw [go_publish]
  cases shutDown with
  | true => exact sound_withdraw ready still stood
  | false => exact sound_tryAcquire ready nofun still

theorem sound_pause
    (ready : duty.Ready setup ballot shutDown)
    (unheld : leadership ≠ .held)
    (still : duty.work = none)
    (stood : duty.hadLost? = none) :
    Sound setup
      (duty.go ballot.candidate
        ((Candidacy.mk phase leadership observed shutDown).pause ballot.candidate now)) := by
  cases shutDown with
  | true => exact sound_withdraw ready still (by simp [stood])
  | false =>
    exact sound_of_kept ready.ours (ready.base.engage _)
      ⟨rfl, ready.obeys, congrArg Option.isSome ready.rests.symm, ⟨ready.admitted, ready.running⟩,
        .seeking (.inr (.inr ⟨rfl, _, rfl⟩)) unheld still stood⟩

/-- The procedure is told to stop. -/
theorem sound_stop
    {ending : Ending}
    (ready : duty.Ready setup ballot shutDown)
    (works : duty.work = some ⟨began, none⟩)
    (prompt : ∀ time, duty.fired = some time → duty.now ≤ time ∨ duty.now = began)
    (stood : ∀ lost, duty.hadLost? = some lost → lost = decide (ending = .lost))
    (clock : Timestamp) :
    Sound setup
      (duty.go ballot.candidate
        ((Candidacy.mk phase .held observed shutDown).stop ballot.candidate ending
          ⟨duty.now, clock⟩)) := by
  have cancels : (duty.act .cancelWork).work = some ⟨began, some duty.now⟩ := by
    simp [act, works]
  exact sound_of_kept ready.ours ((ready.base.cancelWork works prompt).engage _)
    ⟨rfl, ready.obeys, congrArg Option.isSome ready.rests.symm, ⟨ready.admitted, ready.running⟩,
      .stopping cancels stood⟩

theorem sound_rest
    (ready : duty.Ready setup ballot false)
    (works : duty.work = some ⟨began, none⟩) :
    Sound setup
      (duty.go ballot.candidate
        ((Candidacy.mk phase .held observed false).rest ballot.candidate now)) :=
  sound_of_kept ready.ours (ready.base.engage _)
    ⟨rfl, ready.obeys, congrArg Option.isSome ready.rests.symm, ⟨ready.admitted, ready.running⟩,
      .leading rfl works⟩

theorem sound_tryRenew
    {deadline : Nat}
    (ready : duty.Ready setup ballot false)
    (works : duty.work = some ⟨began, none⟩) :
    Sound setup
      (duty.go ballot.candidate
        ((Candidacy.mk phase .held observed false).tryRenew now deadline)) :=
  sound_of_kept ready.ours ((ready.base.engage _).ask (by simp [hadLost?, ready.untold]))
    ⟨rfl, ready.obeys, rfl, ⟨ready.admitted, ready.running⟩, .leading rfl works⟩

/-- The lock was not renewed. -/
theorem sound_miss
    {deadline : Nat}
    (ready : duty.Ready setup ballot false)
    (works : duty.work = some ⟨began, none⟩)
    (clock : Timestamp) :
    Sound setup
      (duty.go ballot.candidate
        ((Candidacy.mk phase .held observed false).miss ballot.candidate deadline
          ⟨duty.now, clock⟩)) := by
  unfold Candidacy.miss
  dsimp only
  split
  · -- A loss may have happened that the watcher did not see yet, but then no time passed since.
    have prompt (time : Nat) (fired : duty.fired = some time) : duty.now ≤ time :=
      Nat.le_of_eq (ready.base.timely.unseen ready.running ready.untold time fired).1
    exact sound_stop ready works (fun time fired => .inl (prompt time fired))
      (by simp [ready.unstood]) clock
  · exact sound_of_kept ready.ours (ready.base.engage _)
      ⟨rfl, ready.obeys, congrArg Option.isSome ready.rests.symm,
        ⟨ready.admitted, ready.running⟩, .leading rfl works⟩

/-- The lock was got. -/
theorem sound_lead
    (ready : duty.Ready setup ballot shutDown)
    (stood : duty.hadLost? = none)
    (clock : Timestamp) :
    Sound setup
      (duty.go ballot.candidate
        ((Candidacy.mk phase leadership observed shutDown).lead ballot.candidate
          ⟨duty.now, clock⟩)) := by
  have started : (duty.act .startWork).Ready setup ballot shutDown :=
    ⟨ready.base.startWork, ready.ours, ready.admitted, ready.running, ready.obeys, ready.rests⟩
  unfold Candidacy.lead
  rw [go_publish, go_after]
  cases shutDown with
  | true =>
    exact sound_stop started rfl (fun _ _ => .inr rfl)
      (fun lost told => by cases stood.symm.trans told) clock
  | false => exact sound_rest started rfl

/-- The lock is given up after the procedure ended. -/
theorem sound_release
    (ready : duty.Ready setup ballot shutDown)
    (still : duty.work = none)
    (stood : ∀ lost, duty.hadLost? = some lost → lost = false) :
    Sound setup
      (duty.go ballot.candidate (Candidacy.mk phase .held observed shutDown).release) :=
  sound_of_kept ready.ours
    ((ready.base.engage _).ask fun lost => Bool.noConfusion (stood true lost))
    ⟨rfl, ready.obeys, rfl, ⟨ready.admitted, ready.running⟩,
      .releasing still stood ⟨none, rfl, nofun⟩⟩

/-- The lock was given up, as far as that was possible. -/
theorem sound_retire
    (ready : duty.Ready setup ballot shutDown)
    (still : duty.work = none)
    (stood : ∀ lost, duty.hadLost? = some lost → lost = false)
    (cleared : duty.isRefused = false → duty.Cleared ballot.identity) :
    Sound setup
      (duty.go ballot.candidate (Candidacy.mk phase leadership observed shutDown).retire) :=
  sound_of_kept ready.ours ((ready.base.engage _).finish _)
    ⟨rfl, ready.obeys, congrArg Option.isSome ready.rests.symm, ⟨ready.admitted, rfl⟩,
      .retired still stood cleared⟩

/-- The procedure ended after it was told to stop. -/
theorem sound_stopped
    {ending : Ending}
    (ready : duty.Ready setup ballot shutDown)
    (still : duty.work = none)
    (stood : ∀ lost, duty.hadLost? = some lost → lost = decide (ending = .lost)) :
    Sound setup
      (duty.go ballot.candidate
        ((Candidacy.mk phase .held observed shutDown).stopped ending now)) := by
  cases ending with
  | lost =>
    unfold Candidacy.stopped
    dsimp only
    rw [go_publish]
    exact sound_acquire ready still stood
  | shutDown => exact sound_release ready still stood

/-- The answer to a call of an attempt to get the lock. -/
theorem sound_reply_acquiring
    {attempt : Attempt}
    (ready : duty.Ready setup ballot shutDown)
    (unheld : leadership ≠ .held)
    (still : duty.work = none)
    (stood : duty.hadLost? = none)
    (reply : LockReply)
    (clock : Timestamp) :
    let next := duty.go ballot.candidate
      ((Candidacy.mk (.acquiring attempt) leadership observed shutDown).onReply ballot.candidate
        ⟨duty.now, clock⟩ reply)
    next.Sound setup ∨ next.Broken setup ∧ reply.isFull ballot.candidate := by
  intro following
  simp only [following, Candidacy.onReply]
  rcases answer : attempt.answer ballot.candidate observed ⟨duty.now, clock⟩ reply with
    ⟨observed', next⟩
  cases next with
  | overflow =>
    exact .inr ⟨⟨ready.admitted, ready.running, ready.rests, still, rfl,
      fun lost => by cases stood.symm.trans lost⟩, LockReply.isFull_of_answer answer⟩
  | ask attempt' call =>
    left
    exact sound_of_kept ready.ours ((ready.base.engage _).ask (by simp [hadLost?_engage, stood]))
      ⟨rfl, ready.obeys, rfl, ⟨ready.admitted, ready.running⟩,
        .seeking (.inr (.inl ⟨_, rfl⟩)) unheld still stood⟩
  | ended success =>
    left
    cases success with
    | true => exact sound_lead ready stood clock
    | false => exact sound_pause ready unheld still stood

/-- The answer to a call of an attempt to renew the lock. -/
theorem sound_reply_renewing
    {attempt : Attempt}
    {deadline : Nat}
    (ready : duty.Ready setup ballot false)
    (works : duty.work = some ⟨began, none⟩)
    (reply : LockReply)
    (clock : Timestamp) :
    let next := duty.go ballot.candidate
      ((Candidacy.mk (.renewing attempt deadline) .held observed false).onReply ballot.candidate
        ⟨duty.now, clock⟩ reply)
    next.Sound setup ∨ next.Broken setup ∧ reply.isFull ballot.candidate := by
  intro following
  simp only [following, Candidacy.onReply]
  rcases answer : attempt.answer ballot.candidate observed ⟨duty.now, clock⟩ reply with
    ⟨observed', next⟩
  cases next with
  | overflow =>
    exact .inr ⟨⟨ready.admitted, ready.running, ready.rests, rfl, rfl,
      fun lost => by cases ready.unstood.symm.trans lost⟩, LockReply.isFull_of_answer answer⟩
  | ask attempt' call =>
    left
    exact sound_of_kept ready.ours
      ((ready.base.engage _).ask (by simp [hadLost?_engage, ready.unstood]))
      ⟨rfl, ready.obeys, rfl, ⟨ready.admitted, ready.running⟩, .leading rfl works⟩
  | ended success =>
    left
    cases success with
    | true => exact sound_rest ready works
    | false => exact sound_miss ready works clock

/-- The answer to the call that reads the lock before it is given up. -/
theorem sound_reply_reading
    {result : Except Fault (Option Versioned)}
    (ready : duty.Ready setup ballot shutDown)
    (still : duty.work = none)
    (stood : ∀ lost, duty.hadLost? = some lost → lost = false)
    (refused : ∀ fault, result = .error fault → duty.isRefused = true)
    (clears : ∀ found, result = .ok found → duty.Cleared ballot.identity ∨
      ∃ current, found = some current ∧ current.record.holder = ballot.identity) :
    Sound setup
      (duty.go ballot.candidate
        ((Candidacy.mk (.releasing .reading) .held observed shutDown).onReply ballot.candidate now
          (.got result))) := by
  match result with
  | .error fault =>
    refine sound_retire ready still stood fun accepted => ?_
    cases accepted.symm.trans (refused fault rfl)
  | .ok none =>
    refine sound_retire ready still stood fun _ => ?_
    obtain cleared | ⟨current, ⟨⟩, _⟩ := clears none rfl
    exact cleared
  | .ok (some current) =>
    unfold Candidacy.onReply
    dsimp only
    split
    · exact sound_of_kept ready.ours
        ((ready.base.engage _).ask fun lost => Bool.noConfusion (stood true lost))
        ⟨rfl, ready.obeys, rfl, ⟨ready.admitted, ready.running⟩,
          .releasing still stood ⟨rfl, _, none, rfl, nofun⟩⟩
    · next foreign =>
      refine sound_retire ready still stood fun _ => ?_
      obtain cleared | ⟨_, ⟨⟩, own⟩ := clears (some current) rfl
      · exact cleared
      · exact absurd own foreign

/-- The answer to the call that gives up the lock. -/
theorem sound_reply_writing
    {released : Record}
    {result : Except Fault Unit}
    (ready : duty.Ready setup ballot shutDown)
    (still : duty.work = none)
    (stood : ∀ lost, duty.hadLost? = some lost → lost = false)
    (refused : ∀ fault, result = .error fault → duty.isRefused = true)
    (clears : result = .ok () → duty.Cleared ballot.identity) :
    Sound setup
      (duty.go ballot.candidate
        ((Candidacy.mk (.releasing (.writing released)) .held observed shutDown).onReply
          ballot.candidate now (.written result))) := by
  match result with
  | .error fault =>
    refine sound_retire ready still stood fun accepted => ?_
    cases accepted.symm.trans (refused fault rfl)
  | .ok () => exact sound_retire ready still stood fun _ => clears rfl

end Deeds

/-! ## What happens to a run behind an election -/

section Elected

variable {candidacy : Candidacy} {clock : Timestamp}

theorem go_unchanged (engaged : duty.supervision.engagement = .elected candidate candidacy) :
    duty.go candidate (candidacy, []) = duty := by
  unfold go
  rw [← engaged]
  rfl

namespace Kept

theorem ready
    (kept : duty.Kept setup ballot candidacy)
    (base : duty.Base setup)
    (ours : setup.ballot = some ballot)
    (rests : duty.pending = none)
    (admitted : setup.problem? = none)
    (running : duty.returned = none) :
    duty.Ready setup ballot candidacy.shutDown :=
  ⟨base, ours, admitted, running, kept.obeys, rests⟩

/-- A candidate that does not wait for the lock. -/
theorem pending_eq_none
    (kept : duty.Kept setup ballot candidacy)
    (waits : candidacy.phase.isAsking = false) :
    duty.pending = none := by
  have asks := kept.asks
  rw [waits] at asks
  simpa using asks.symm

/-- A run that started had its settings admitted. -/
theorem admitted
    (kept : duty.Kept setup ballot candidacy)
    (started : candidacy.phase ≠ .idle) :
    setup.problem? = none := by
  have returns := kept.returns
  unfold Returns at returns
  split at returns
  · next idle => exact absurd idle started
  · exact returns.1
  · exact returns.1

/-- A run whose settings are refused did not start. -/
theorem idle_of_refused
    {problem : SettingsProblem}
    (kept : duty.Kept setup ballot candidacy)
    (refused : setup.problem? = some problem) :
    candidacy.phase = .idle := by
  by_contra started
  cases (kept.admitted started).symm.trans refused

theorem phase_of_isIdle
    (kept : duty.Kept setup ballot candidacy)
    (idle : duty.isIdle = true) :
    candidacy.phase = .idle := by
  unfold isIdle at idle
  rw [kept.engaged] at idle
  split at idle <;> simp_all

theorem start
    (kept : duty.Kept setup ballot candidacy)
    (base : duty.Base setup)
    (ours : setup.ballot = some ballot)
    (running : duty.returned = none)
    (admitted : setup.problem? = none)
    (idle : candidacy.phase = .idle) :
    Sound setup (duty.after clock (.run .start)) := by
  have rests := kept.pending_eq_none (by rw [idle]; rfl)
  have ready := kept.ready base ours rests admitted running
  rw [after_run kept.engaged]
  obtain ⟨phase, leadership, observed, shutDown⟩ := candidacy
  obtain rfl : phase = .idle := idle
  cases kept.stands with
  | seeking _ _ still stood => exact sound_acquire ready still (by simp [stood])
  | leading active => cases active

/-- The answer to the pending call. -/
theorem reply
    {call : LockCall}
    {reply : LockReply}
    (kept : duty.Kept setup ballot candidacy)
    (base : duty.Base setup)
    (ours : setup.ballot = some ballot)
    (running : duty.returned = none)
    (pending : duty.pending = some (call, some reply)) :
    let next := (duty.hear reply).after clock (.run (.reply reply))
    next.Sound setup ∨ next.Broken setup ∧ reply.isFull ballot.candidate := by
  intro next
  have asks := kept.asks
  rw [pending] at asks
  have admitted := kept.admitted (by rintro idle; rw [idle] at asks; cases asks)
  have ready : (duty.hear reply).Ready setup ballot candidacy.shutDown :=
    ⟨base.hear reply, ours, admitted, running, kept.obeys, rfl⟩
  simp only [next, after_run (show (duty.hear reply).supervision.engagement = _ from kept.engaged)]
  obtain ⟨engaged, -, -, -, stands⟩ := kept
  cases stands with
  | seeking seeks unheld still stood =>
    obtain rfl | ⟨attempt, rfl⟩ | ⟨-, wake, rfl⟩ := seeks
    · cases asks
    · exact sound_reply_acquiring ready unheld still stood reply clock
    · cases asks
  | @leading phase _ _ active works =>
    cases phase with
    | renewing attempt deadline => exact sound_reply_renewing ready works reply clock
    | acquiring | releasing => cases active
    | idle | pausing | resting | retrying | stopping | done => cases asks
  | stopping => cases asks
  | @releasing release observed shutDown still stood releases =>
    have isReleasing : duty.isReleasing = true := by simp [Duty.isReleasing, phase?, engaged]
    left
    cases release with
    | reading =>
      obtain ⟨answer, asked, heard⟩ := releases
      obtain ⟨rfl, rfl⟩ : LockCall.get = call ∧ answer = some reply := by
        simpa [asked] using pending
      obtain ⟨result, rfl, clears⟩ := heard reply rfl
      refine sound_reply_reading ready still stood ?_ clears
      rintro fault rfl
      simp [hear, isReleasing, LockReply.isFault]
    | writing released =>
      obtain ⟨-, version, answer, asked, heard⟩ := releases
      obtain ⟨rfl, rfl⟩ : LockCall.update released version = call ∧ answer = some reply := by
        simpa [asked] using pending
      obtain ⟨result, rfl, clears⟩ := heard reply rfl
      refine sound_reply_writing ready still stood ?_ clears
      rintro fault rfl
      simp [hear, isReleasing, LockReply.isFault]
  | withdrawn => cases asks
  | retired => cases asks

/-- The time at which the candidate goes on by itself, or an earlier one. -/
theorem tick
    (kept : duty.Kept setup ballot candidacy)
    (base : duty.Base setup)
    (ours : setup.ballot = some ballot)
    (running : duty.returned = none) :
    Sound setup (duty.after clock (.run .tick)) := by
  have sound := sound_of_kept ours base kept
  rw [after_run kept.engaged]
  simp only [Candidacy.step]
  split
  case h_2 => rwa [go_unchanged kept.engaged]
  case h_1 time timer =>
    split
    case isFalse => rwa [go_unchanged kept.engaged]
    case isTrue due =>
      have started : candidacy.phase ≠ .idle := by
        rintro idle
        simp [Candidacy.timer?, idle] at timer
      have admitted := kept.admitted started
      have rests := kept.pending_eq_none
      have obeys := kept.obeys
      obtain ⟨engaged, -, -, -, stands⟩ := kept
      cases stands with
      | seeking seeks unheld still stood =>
        obtain rfl | ⟨attempt, rfl⟩ | ⟨rfl, wake, rfl⟩ := seeks
        · cases timer
        · cases timer
        · exact sound_tryAcquire ⟨base, ours, admitted, running, obeys, rests rfl⟩ unheld still
      | @leading phase _ _ active works =>
        cases phase with
        | resting wake =>
          exact sound_tryRenew ⟨base, ours, admitted, running, obeys, rests rfl⟩ works
        | retrying wake deadline =>
          exact sound_tryRenew ⟨base, ours, admitted, running, obeys, rests rfl⟩ works
        | renewing attempt deadline =>
          have ready : (duty.act .abandonCall).Ready setup ballot false :=
            ⟨base.abandonCall, ours, admitted, running, obeys, rfl⟩
          unfold Candidacy.onTimer
          rw [go_after]
          exact sound_miss ready works clock
        | idle | acquiring | pausing | stopping | releasing | done => cases active
      | @stopping _ _ shutDown began cancelled works stood =>
        obtain rfl : Duration.ring (cancelled + ballot.candidate.timing.grace.nanos) = time := by
          simpa [Candidacy.timer?] using timer
        have grace : HadGrace setup (⟨began, some cancelled⟩, duty.now) :=
          ⟨ballot, ours, cancelled, rfl, Nat.le_trans (Duration.le_ring _) due⟩
        have ready : (duty.act .dropWork).Ready setup ballot shutDown :=
          ⟨base.dropWork works grace, ours, admitted, running, obeys, rests rfl⟩
        unfold Candidacy.onTimer
        rw [go_after]
        exact sound_stopped ready rfl stood
      | releasing | withdrawn | retired => cases timer

/-- The end of the procedure. -/
theorem workEnds
    (kept : duty.Kept setup ballot candidacy)
    (base : duty.Base setup)
    (ours : setup.ballot = some ballot)
    (running : duty.returned = none)
    (working : duty.work.isSome = true) :
    Sound setup (duty.endWork.after clock (.run .workEnded)) := by
  have rests := kept.pending_eq_none
  have obeys := kept.obeys
  have admitted := kept.admitted
  rw [after_run (show duty.endWork.supervision.engagement = _ from kept.engaged)]
  obtain ⟨engaged, -, -, -, stands⟩ := kept
  cases stands with
  | @leading phase _ _ active works =>
    cases phase with
    | resting wake =>
      have ready : duty.endWork.Ready setup ballot false :=
        ⟨base.endWork, ours, admitted nofun, running, obeys, rests rfl⟩
      exact sound_release ready rfl (by simp [ready.unstood])
    | retrying wake deadline =>
      have ready : duty.endWork.Ready setup ballot false :=
        ⟨base.endWork, ours, admitted nofun, running, obeys, rests rfl⟩
      exact sound_release ready rfl (by simp [ready.unstood])
    | renewing attempt deadline =>
      have ready : (duty.endWork.act .abandonCall).Ready setup ballot false :=
        ⟨base.endWork.abandonCall, ours, admitted nofun, running, obeys, rfl⟩
      unfold Candidacy.step Candidacy.onWorkEnded
      dsimp only
      rw [go_after]
      exact sound_release ready rfl (by simp [ready.unstood])
    | idle | acquiring | pausing | stopping | releasing | done => cases active
  | stopping works stood =>
    exact sound_stopped ⟨base.endWork, ours, admitted nofun, running, obeys, rests rfl⟩ rfl stood
  | seeking _ _ still | releasing still | withdrawn still | retired still =>
    rw [still] at working
    cases working

/-- What is known of the standing of a candidate once it is told to stop. -/
theorem stood_ordered
    {fired : Option Nat}
    {flag had : Bool}
    (kept : duty.Kept setup ballot candidacy)
    (stood : ∀ lost, duty.hadLost? = some lost → lost = had)
    (stands : candidacy.leadership = .held → candidacy.phase.hasLost = had) :
    ∀ lost, (duty.ordered fired flag).hadLost? = some lost → lost = had := by
  intro lost had'
  cases told : duty.told with
  | none =>
    rw [hadLost?_ordered_of_untold kept.engaged told] at had'
    split at had'
    · next held =>
      obtain rfl := Option.some.inj had'
      exact stands held
    · cases had'
  | some engagement =>
    rw [hadLost?_ordered_of_told (by rw [told]; rfl)] at had'
    exact stood lost had'

/-- The order to stop. -/
theorem order
    {fired : Option Nat}
    {flag : Bool}
    (kept : duty.Kept setup ballot candidacy)
    (base : duty.Base setup)
    (ours : setup.ballot = some ballot)
    (running : duty.returned = none)
    (isFired : fired.isSome = true)
    (first : ∀ time, fired = some time →
      duty.fired = some time ∨ duty.fired = none ∧ time = duty.now) :
    Sound setup
      ((duty.ordered fired flag).go ballot.candidate
        (candidacy.onShutDown ballot.candidate ⟨duty.now, clock⟩)) := by
  have base' : (duty.ordered fired flag).Base setup := base.ordered isFired first
  have obeys : true = (duty.ordered fired flag).told.isSome := told_ordered.symm
  have rests := kept.pending_eq_none
  have admitted := kept.admitted
  have asks := kept.asks
  have whole := kept
  obtain ⟨engaged, untold, -, returns, stands⟩ := kept
  cases stands with
  | seeking seeks unheld still stood =>
    have stood' (lost : Bool) : (duty.ordered fired flag).hadLost? ≠ some lost := by
      intro had
      have same : lost = !lost :=
        whole.stood_ordered (by simp [stood]) (fun held => absurd held unheld) lost had
      cases lost <;> cases same
    have stood' := Option.eq_none_iff_forall_ne_some.mpr stood'
    obtain rfl | ⟨attempt, rfl⟩ | ⟨rfl, wake, rfl⟩ := seeks
    · exact sound_of_kept ours (base'.engage _)
        ⟨rfl, obeys, asks, returns, .seeking (.inl rfl) unheld still stood'⟩
    · exact sound_of_kept ours (base'.engage _)
        ⟨rfl, obeys, asks, returns, .seeking (.inr (.inl ⟨_, rfl⟩)) unheld still stood'⟩
    · exact sound_withdraw ⟨base', ours, admitted nofun, running, obeys, rests rfl⟩ still
        (by simp [stood'])
  | @leading phase _ began active works =>
    have untold : duty.told = none := by simpa using untold.symm
    -- This is the first order to stop, so the token is cancelled when the first loss or order
    -- happened, and whether the candidate had lost the lock is settled now.
    have prompt (time : Nat) (happened : fired = some time) : duty.now ≤ time := by
      obtain before | ⟨-, rfl⟩ := first time happened
      · exact Nat.le_of_eq (base.timely.unseen running untold time before).1
      · exact Nat.le_refl _
    have stood (lost : Bool) (had : (duty.ordered fired flag).hadLost? = some lost) :
        lost = decide (Ending.shutDown = .lost) := by
      rw [hadLost?_ordered_of_untold engaged untold, if_pos rfl] at had
      obtain rfl := Option.some.inj had
      cases phase <;> first | rfl | cases active
    cases phase with
    | resting wake =>
      exact sound_stop ⟨base', ours, admitted nofun, running, obeys, rests rfl⟩ works
        (fun time happened => .inl (prompt time happened)) stood clock
    | retrying wake deadline =>
      exact sound_stop ⟨base', ours, admitted nofun, running, obeys, rests rfl⟩ works
        (fun time happened => .inl (prompt time happened)) stood clock
    | renewing attempt deadline =>
      have ready : ((duty.ordered fired flag).act .abandonCall).Ready setup ballot true :=
        ⟨base'.abandonCall, ours, admitted nofun, running, obeys, rfl⟩
      unfold Candidacy.onShutDown
      dsimp only
      rw [go_after]
      exact sound_stop ready works (fun time happened => .inl (prompt time happened)) stood clock
    | idle | acquiring | pausing | stopping | releasing | done => cases active
  | @stopping ending _ _ began cancelled works stood =>
    have stood' (lost : Bool) (had : (duty.ordered fired flag).hadLost? = some lost) :
        lost = decide (ending = .lost) :=
      whole.stood_ordered stood (fun _ => by cases ending <;> rfl) lost had
    exact sound_of_kept ours (base'.engage _) ⟨rfl, obeys, asks, returns, .stopping works stood'⟩
  | releasing still stood releases =>
    have stood' (lost : Bool) (had : (duty.ordered fired flag).hadLost? = some lost) :
        lost = false :=
      whole.stood_ordered stood (fun _ => rfl) lost had
    exact sound_of_kept ours (base'.engage _)
      ⟨rfl, obeys, asks, returns, .releasing still stood' releases⟩
  | withdrawn | retired => cases running.symm.trans returns.2

end Kept

end Elected

end Duty

end VolumeAttacher
