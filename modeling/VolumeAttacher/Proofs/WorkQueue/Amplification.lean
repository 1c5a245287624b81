import VolumeAttacher.Proofs.WorkQueue.Shifts

/-!
# Keys with two stakes

A key that two things can bring to a worker keeps both of them while all work on it fails, as each
failure sets an alarm of its own. Sooner or later one of them cuts the delay of the other short, so
the shifts of a key are sure to be as far apart as their delays say only if it has a single stake.
-/

namespace VolumeAttacher

namespace WorkQueue

variable {Key : Type} {queue : WorkQueue Key} {key : Key}

/-- All intervals of a queue are positive. -/
structure Positive (queue : WorkQueue Key) : Prop where
  start : 0 < queue.start
  maximum : 0 < queue.maximum
  intervals : ∀ entry ∈ queue.failures, 0 < entry.2.interval

variable [DecidableEq Key]

namespace Positive

theorem backoff (positive : queue.Positive) (key : Key) : 0 < (queue.backoff key).interval := by
  unfold WorkQueue.backoff
  cases found : queue.failures.lookup key with
  | none => exact positive.start
  | some backoff => 
    obtain ⟨before, after, split, -⟩ := List.lookup_eq_some_iff.mp found
    exact positive.intervals (key, backoff) (by simp [split])

omit [DecidableEq Key] in
theorem nextInterval (positive : queue.Positive) {interval : Nat} (isPositive : 0 < interval) :
    0 < nextInterval queue.maximum interval := by
  unfold WorkQueue.nextInterval
  split_ifs
  · exact positive.maximum
  · omega

theorem fail (positive : queue.Positive) (key : Key) : (queue.fail key).1.Positive where
  start := positive.start
  maximum := positive.maximum
  intervals := List.forall_mem_cons.mpr ⟨positive.nextInterval (positive.backoff key),
    fun entry present => positive.intervals entry (List.mem_of_mem_filter present)⟩

theorem forget (positive : queue.Positive) (key : Key) : (queue.forget key).Positive where
  start := positive.start
  maximum := positive.maximum
  intervals entry present := positive.intervals entry (List.mem_of_mem_filter present)

theorem add (positive : queue.Positive) (key : Key) : (queue.add key).1.Positive := by
  unfold WorkQueue.add
  split_ifs <;> exact ⟨positive.start, positive.maximum, positive.intervals⟩

theorem done (positive : queue.Positive) (key : Key) : (queue.done key).1.Positive := by
  unfold WorkQueue.done
  dsimp only
  split_ifs <;> exact ⟨positive.start, positive.maximum, positive.intervals⟩

end Positive

end WorkQueue

namespace TimedQueue

variable {Key : Type} [DecidableEq Key] {timed next : TimedQueue Key} {key : Key}

theorem positive_addAfter
    (positive : timed.queue.Positive)
    (key : Key)
    (nanos : Nat) :
    (timed.addAfter key nanos).queue.Positive := by
  obtain ⟨-, same⟩ | ⟨-, same⟩ := timed.addAfter_cases key nanos
  · rw [same]
    exact positive.add key
  · rw [same]
    exact positive

theorem positive_after (positive : timed.queue.Positive) (event : QueueEvent Key) :
    (timed.after event).queue.Positive := by
  cases event with
  | add key => exact positive.add key
  | addAfter key nanos => exact positive_addAfter positive key nanos
  | get =>
    obtain ⟨queue, first, handed, same⟩ | same := timed.get_cases
    · obtain ⟨-, rest, -, next⟩ := WorkQueue.eq_of_get handed
      rw [after, same, queue_withShifts, next]
      exact ⟨positive.start, positive.maximum, positive.intervals⟩
    · rw [after, same]
      exact positive
  | fail key => exact positive_addAfter (positive.fail key) key _
  | forget key => exact positive.forget key
  | done key => exact positive.done key
  | ring alarm => exact positive.add alarm.1
  | wait | shutDown => exact ⟨positive.start, positive.maximum, positive.intervals⟩

theorem Leads.positive
    {allowed : TimedQueue Key → QueueEvent Key → Prop}
    (leads : Leads allowed timed next)
    (positive : timed.queue.Positive) :
    next.queue.Positive := by
  induction leads with
  | refl => exact positive
  | tail _ step inductionHypothesis =>
    obtain ⟨event, -, -, rfl⟩ := step
    exact positive_after inductionHypothesis event

theorem Fails.of_event
    (event : QueueEvent Key)
    (mayHappen : timed.MayHappen event)
    (leaves : timed.Leaves key event) :
    Fails key timed (timed.after event) :=
  .single ⟨event, mayHappen, leaves, rfl⟩

/-- The first key that waits in an open queue is handed out. -/
theorem get_of_waiting
    {rest : List Key}
    (opened : timed.queue.closed = false)
    (waiting : timed.queue.waiting = key :: rest) :
    ∃ queue : WorkQueue Key, queue.closed = false ∧ queue.waiting = rest ∧
      key ∈ queue.processing ∧ key ∉ queue.dirty ∧
      timed.get = timed.withShifts queue key (⟨timed.now, none⟩ :: timed.shifts key) := by
  refine ⟨{ timed.queue with
    waiting := rest
    dirty := timed.queue.dirty.filter (· ≠ key)
    processing := key :: timed.queue.processing.filter (· ≠ key) }, opened, rfl, by simp, by simp, ?_⟩
  simp only [get, WorkQueue.get, opened, waiting]
  rfl

/-- A key that waits in an open queue is handed out once all that wait before it were. -/
theorem exists_handed
    (opened : timed.queue.closed = false)
    (waits : key ∈ timed.queue.waiting) :
    ∃ next, Fails key timed next ∧ next.queue.closed = false ∧ next.now = timed.now ∧
      next.alarms = timed.alarms ∧ next.shifts key = ⟨timed.now, none⟩ :: timed.shifts key ∧
      key ∈ next.queue.processing ∧ key ∉ next.queue.dirty := by
  induction waiting : timed.queue.waiting generalizing timed with
  | nil => simp [waiting] at waits
  | cons first rest inductionHypothesis =>
    obtain ⟨queue, isOpen, later, taken, unmarked, handed⟩ := get_of_waiting opened waiting
    have step : Fails key timed timed.get := .of_event .get trivial trivial
    rw [handed] at step
    by_cases same : key = first
    · subst same
      exact ⟨_, step, isOpen, rfl, rfl, shifts_withShifts_self .., taken, unmarked⟩
    · have stillWaits : key ∈ queue.waiting := by
        rw [later]
        exact (List.mem_cons.mp (waiting ▸ waits)).resolve_left same
      obtain ⟨next, others, isOpen, now, alarms, shifts, kept⟩ :=
        @inductionHypothesis (timed.withShifts queue first _) isOpen stillWaits later
      rw [shifts_withShifts_of_ne _ _ _ same] at shifts
      exact ⟨next, step.trans others, isOpen, now, alarms, shifts, kept⟩

/-- A worker that has a key fails, and is done with it. -/
theorem exists_failed
    (sound : timed.Sound)
    (positive : timed.queue.Positive)
    (works : timed.Works key) :
    ∃ next, ∃ delay > 0, Fails key timed next ∧ next.queue.closed = timed.queue.closed ∧
      next.now = timed.now ∧ next.alarms = (key, timed.now + delay) :: timed.alarms ∧
      next.shifts key = Shift.settle delay (timed.shifts key) ∧
      key ∉ next.queue.processing ∧ (key ∈ next.queue.dirty ↔ key ∈ timed.queue.dirty) := by
  have delays : 0 < (timed.queue.fail key).2 := positive.backoff key
  have failed : timed.fail key =
      withShifts { timed with alarms := (key, timed.now + (timed.queue.fail key).2) :: timed.alarms }
        (timed.queue.fail key).1 key
        (Shift.settle (timed.queue.fail key).2 (timed.shifts key)) := by
    rw [fail_eq]
    exact if_neg (Nat.ne_of_gt delays)
  have settled : ¬ (timed.fail key).Works key := by
    rintro ⟨-, none⟩
    rw [failed, lastDelay?, shifts_withShifts_self,
      Shift.delay_settle (sound.handed key works.1)] at none
    cases none
  have taken : key ∈ (timed.fail key).queue.processing := by
    rw [failed]
    exact works.1
  have first : Fails key timed (timed.fail key) := .of_event (.fail key) works trivial
  have second : Fails key (timed.fail key) ((timed.fail key).after (.done key)) :=
    .of_event (.done key) taken fun _ => settled
  refine ⟨_, _, delays, first.trans second, ?_⟩
  rw [failed]
  refine ⟨WorkQueue.closed_done _ _, rfl, rfl, shifts_withShifts_self .., ?_, ?_⟩
  · simp [after]
  · simp only [after, WorkQueue.dirty_done]
    rfl

/-- A queue in which a key neither waits nor is with a worker, so that only alarms can bring it
there. -/
structure Idle (key : Key) (timed : TimedQueue Key) : Prop where
  sound : timed.Sound
  positive : timed.queue.Positive
  opened : timed.queue.closed = false
  unmarked : key ∉ timed.queue.dirty
  free : key ∉ timed.queue.processing

/-- A key that waits is handed out, its worker fails, and only alarms can bring it back. -/
theorem exists_shift
    (sound : timed.Sound)
    (positive : timed.queue.Positive)
    (opened : timed.queue.closed = false)
    (marked : key ∈ timed.queue.dirty)
    (free : key ∉ timed.queue.processing) :
    ∃ next, ∃ delay > 0, Fails key timed next ∧ Idle key next ∧ next.now = timed.now ∧
      next.alarms = (key, timed.now + delay) :: timed.alarms ∧
      next.shifts key = ⟨timed.now, some delay⟩ :: timed.shifts key := by
  have waits := (sound.queue.held opened key marked).resolve_right free
  obtain ⟨handed, leads, isOpen, now, alarms, shifts, taken, unmarked⟩ :=
    exists_handed opened waits
  have works : handed.Works key := ⟨taken, by rw [lastDelay?, shifts]; rfl⟩
  obtain ⟨next, delay, delays, failed, stillOpen, later, set, settled, released, same⟩ :=
    exists_failed (leads.sound sound) (leads.positive positive) works
  have whole : Fails key timed next := leads.trans failed
  refine ⟨next, delay, delays, whole, ?_, later.trans now, ?_, ?_⟩
  · exact ⟨whole.sound sound, whole.positive positive, stillOpen.trans isOpen,
      fun marked => unmarked (same.mp marked), released⟩
  · rw [set, now, alarms]
  · rw [settled, shifts]
    rfl

/-- An alarm brings a key to a worker, whose failure sets another one. -/
theorem Idle.exists_shift
    {alarm : Key × Nat}
    (idle : timed.Idle key)
    (isSet : alarm ∈ timed.alarms)
    (about : alarm.1 = key) :
    ∃ next, ∃ delay > 0, Fails key timed next ∧ Idle key next ∧
      next.now = max timed.now alarm.2 ∧
      next.alarms = (key, next.now + delay) :: timed.alarms.erase alarm ∧
      next.shifts key = ⟨next.now, some delay⟩ :: timed.shifts key := by
  let waited : TimedQueue Key := { timed with now := max timed.now alarm.2 }
  have waits : Fails key timed waited :=
    .of_event (.wait (max timed.now alarm.2)) (Nat.le_max_left _ _) trivial
  have rings : Fails key waited (waited.after (.ring alarm)) :=
    .of_event (.ring alarm) ⟨isSet, Nat.le_max_right _ _⟩ trivial
  have whole : Fails key timed (waited.after (.ring alarm)) := waits.trans rings
  have marked : key ∈ (waited.after (.ring alarm)).queue.dirty :=
    WorkQueue.mem_dirty_add.mpr (.inr ⟨idle.opened, about.symm⟩)
  have free : key ∉ (waited.after (.ring alarm)).queue.processing := by
    rw [after, add, WorkQueue.processing_add]
    exact idle.free
  obtain ⟨next, delay, delays, leads, isIdle, now, alarms, shifts⟩ :=
    TimedQueue.exists_shift (whole.sound idle.sound) (whole.positive idle.positive)
      ((WorkQueue.closed_add _ _).trans idle.opened) marked free
  refine ⟨next, delay, delays, whole.trans leads, isIdle, now, ?_, ?_⟩
  · rw [alarms, now]
    rfl
  · rw [shifts, now]
    rfl

/-- Of two alarms for a key one cuts a delay short sooner or later: as long as the first alarm rings
so early that the delay after it is over before the second one rings, the alarm that it leads to
comes closer to the second one. -/
theorem Idle.exists_unspaced
    {first second : Key × Nat}
    (idle : timed.Idle key)
    (isSet : first ∈ timed.alarms)
    (isSetToo : second ∈ timed.alarms.erase first)
    (about : first.1 = key)
    (aboutToo : second.1 = key) :
    ∃ later last previous old, ∃ delay ∈ previous.delay, Fails key timed later ∧
      later.shifts key = last :: previous :: (old ++ timed.shifts key) ∧
      last.time < previous.time + delay := by
  induction gap : second.2 - first.2 using Nat.strongRecOn generalizing timed first with
  | ind gap inductionHypothesis =>
    obtain ⟨next, delay, delays, leads, isIdle, now, alarms, shifts⟩ :=
      idle.exists_shift isSet about
    by_cases early : second.2 < next.now + delay
    · have stillSet : second ∈ next.alarms := by
        rw [alarms]
        exact List.mem_cons_of_mem _ isSetToo
      obtain ⟨later, other, -, follows, -, laterNow, -, laterShifts⟩ :=
        isIdle.exists_shift stillSet aboutToo
      refine ⟨later, ⟨later.now, some other⟩, ⟨next.now, some delay⟩, [], delay, rfl,
        leads.trans follows, ?_, ?_⟩
      · rw [laterShifts, shifts, List.nil_append]
      · simp only [laterNow]
        omega
    · have newSet : (key, next.now + delay) ∈ next.alarms := by
        rw [alarms]
        exact List.mem_cons_self
      have stillSet : second ∈ next.alarms.erase (key, next.now + delay) := by
        rw [alarms, List.erase_cons_head]
        exact isSetToo
      obtain ⟨later, last, previous, old, cut, isCut, follows, laterShifts, isEarly⟩ :=
        inductionHypothesis _ (by dsimp only; omega) isIdle newSet stillSet rfl rfl
      refine ⟨later, last, previous, old ++ [⟨next.now, some delay⟩], cut, isCut,
        leads.trans follows, ?_, isEarly⟩
      rw [laterShifts, shifts, List.append_assoc, List.singleton_append]

theorem stakes_of_free
    (free : key ∉ timed.queue.processing) :
    timed.stakes key =
      (if key ∈ timed.queue.dirty then 1 else 0) + timed.alarms.countP (·.1 = key) := by
  have rests : ¬ timed.Works key := fun works => free works.1
  simp only [stakes, rests, if_false, Nat.add_zero]

/-- A key comes to be with no worker, with as many stakes as it had. -/
theorem exists_released
    (sound : timed.Sound)
    (positive : timed.queue.Positive)
    (key : Key) :
    ∃ next, Fails key timed next ∧ next.queue.closed = timed.queue.closed ∧
      key ∉ next.queue.processing ∧ next.stakes key = timed.stakes key ∧
      (next.shifts key).length = (timed.shifts key).length := by
  by_cases works : timed.Works key
  · obtain ⟨next, delay, -, leads, opened, -, alarms, shifts, released, same⟩ :=
      exists_failed sound positive works
    refine ⟨next, leads, opened, released, ?_, ?_⟩
    · rw [stakes_of_free released, stakes, if_pos works, alarms, List.countP_cons_of_pos (by simp)]
      simp only [same]
      omega
    · rw [shifts, Shift.length_settle]
  · by_cases taken : key ∈ timed.queue.processing
    · have step : Fails key timed (timed.after (.done key)) := .of_event (.done key) taken fun _ => works
      refine ⟨_, step, WorkQueue.closed_done _ _, by simp [after], ?_, rfl⟩
      refine stakes_congr (by simp [after]) (iff_of_false (fun still => works ?_) works) rfl
      exact ⟨taken, still.2⟩
    · exact ⟨timed, .refl, rfl, taken, rfl, rfl⟩

/-- A key can be left to its alarms alone, with as many of them as it had stakes. -/
theorem exists_idle
    (sound : timed.Sound)
    (positive : timed.queue.Positive)
    (opened : timed.queue.closed = false)
    (key : Key) :
    ∃ next, Fails key timed next ∧ Idle key next ∧
      next.alarms.countP (·.1 = key) = timed.stakes key ∧
      (timed.shifts key).length ≤ (next.shifts key).length := by
  obtain ⟨released, leads, isOpen, free, stakes, length⟩ := exists_released sound positive key
  have soundToo := leads.sound sound
  have positiveToo := leads.positive positive
  rw [opened] at isOpen
  rw [stakes_of_free free] at stakes
  rw [← stakes, ← length]
  by_cases marked : key ∈ released.queue.dirty
  · obtain ⟨next, delay, -, follows, idle, -, alarms, shifts⟩ :=
      exists_shift soundToo positiveToo isOpen marked free
    refine ⟨next, leads.trans follows, idle, ?_, ?_⟩
    · rw [alarms, List.countP_cons_of_pos (by simp), if_pos marked, Nat.add_comm]
    · rw [shifts]
      exact Nat.le_succ _
  · refine ⟨released, leads, ⟨soundToo, positiveToo, isOpen, marked, free⟩, ?_, Nat.le_refl _⟩
    rw [if_neg marked, Nat.zero_add]

theorem exists_mem_erase_of_countP
    {alarms : List (Key × Nat)}
    (several : 2 ≤ alarms.countP (·.1 = key)) :
    ∃ first ∈ alarms, ∃ second ∈ alarms.erase first, first.1 = key ∧ second.1 = key := by
  obtain ⟨first, isSet, about⟩ := List.countP_pos_iff.mp (Nat.lt_of_succ_lt several)
  have count := (List.perm_cons_erase isSet).countP_eq (·.1 = key)
  rw [List.countP_cons, if_pos about] at count
  obtain ⟨second, isSetToo, aboutToo⟩ :=
    List.countP_pos_iff.mp (show 0 < (alarms.erase first).countP (·.1 = key) by omega)
  exact ⟨first, isSet, second, isSetToo, by simpa using about, by simpa using aboutToo⟩

omit [DecidableEq Key] in
theorem not_spacedSince
    {earlier : TimedQueue Key}
    {last previous : Shift}
    {old : List Shift}
    {delay : Nat}
    (shifts : timed.shifts key = last :: previous :: old)
    (length : (earlier.shifts key).length ≤ old.length)
    (isDelay : delay ∈ previous.delay)
    (early : last.time < previous.time + delay) :
    ¬ timed.SpacedSince key earlier := by
  intro spaced
  have recent := spaced (last :: previous :: old.take (old.length - (earlier.shifts key).length))
    (old.drop (old.length - (earlier.shifts key).length))
    (by rw [shifts, List.cons_append, List.cons_append, List.take_append_drop])
    (by rw [List.length_drop]; omega)
  exact absurd (recent.1 previous rfl delay isDelay) (Nat.not_le_of_lt early)

/-- While all work on a key fails and nobody else adds it, its shifts are sure to be as far apart as
their delays say exactly if it has no more than one stake. -/
theorem Reachable.spaced_iff_stakes_le_one
    {start maximum : Duration}
    (reachable : Reachable start maximum timed)
    (startsLate : 0 < start.nanos)
    (staysLate : 0 < maximum.nanos)
    (opened : timed.queue.closed = false)
    (key : Key) :
    (∀ later, Fails key timed later → later.SpacedSince key timed) ↔ timed.stakes key ≤ 1 := by
  have sound : timed.Sound := Leads.sound reachable (.opening start maximum)
  have positive : timed.queue.Positive :=
    Leads.positive reachable ⟨startsLate, staysLate, nofun⟩
  constructor
  · intro spaced
    by_contra several
    obtain ⟨idle, leads, isIdle, alarms, length⟩ := exists_idle sound positive opened key
    have two : 2 ≤ idle.alarms.countP (·.1 = key) := by omega
    obtain ⟨first, isSet, second, isSetToo, about, aboutToo⟩ := exists_mem_erase_of_countP two
    obtain ⟨later, last, previous, old, delay, isDelay, follows, shifts, early⟩ :=
      isIdle.exists_unspaced isSet isSetToo about aboutToo
    refine not_spacedSince shifts ?_ isDelay early (spaced later (leads.trans follows))
    rw [List.length_append]
    omega
  · exact fun single later fails => fails.spaced_of_stakes_le sound single

/-- Events that may happen one after another. -/
def Legal (allowed : TimedQueue Key → QueueEvent Key → Prop) :
    TimedQueue Key → List (QueueEvent Key) → Prop
  | _, [] => True
  | timed, event :: events =>
    timed.MayHappen event ∧ allowed timed event ∧ Legal allowed (timed.after event) events

theorem Legal.leads
    {allowed : TimedQueue Key → QueueEvent Key → Prop}
    {events : List (QueueEvent Key)}
    (legal : Legal allowed timed events) :
    Leads allowed timed (events.foldl after timed) := by
  induction events generalizing timed with
  | nil => exact .refl
  | cons event events inductionHypothesis =>
    obtain ⟨mayHappen, isAllowed, legal⟩ := legal
    exact .head ⟨event, mayHappen, isAllowed, rfl⟩ (inductionHypothesis legal)

instance (timed : TimedQueue Key) : DecidablePred timed.MayHappen
  | .fail key => inferInstanceAs (Decidable (timed.Works key))
  | .done key => inferInstanceAs (Decidable (key ∈ timed.queue.processing))
  | .ring alarm => inferInstanceAs (Decidable (alarm ∈ timed.alarms ∧ alarm.2 ≤ timed.now))
  | .wait moment => inferInstanceAs (Decidable (timed.now ≤ moment))
  | .add _ | .addAfter _ _ | .get | .forget _ | .shutDown => .isTrue trivial

instance (timed : TimedQueue Key) (key : Key) : DecidablePred (timed.Leaves key)
  | .add other | .addAfter other _ | .forget other => inferInstanceAs (Decidable (other ≠ key))
  | .done other => inferInstanceAs (Decidable (other = key → ¬ timed.Works key))
  | .get | .fail _ | .ring _ | .wait _ | .shutDown => .isTrue trivial

instance decidableLegal
    (allowed : TimedQueue Key → QueueEvent Key → Prop)
    [∀ timed, DecidablePred (allowed timed)] :
    ∀ timed, DecidablePred (Legal allowed timed)
  | _, [] => .isTrue trivial
  | timed, event :: events =>
    have := decidableLegal allowed (timed.after event) events
    inferInstanceAs (Decidable (timed.MayHappen event ∧ allowed timed event ∧
      Legal allowed (timed.after event) events))

/-- A key that is in work for the first time has a single stake. -/
theorem spaced_iff_stakes_le_one_at_first :
    let timed : TimedQueue String := [.add "va-1", .get].foldl after
      (opening (.ofSeconds 1) (.ofSeconds 300))
    (∀ later, Fails "va-1" timed later → later.SpacedSince "va-1" timed) ∧
      timed.stakes "va-1" ≤ 1 := by
  intro timed
  have reachable : Reachable (.ofSeconds 1) (.ofSeconds 300) timed :=
    Legal.leads (by decide)
  have single : timed.stakes "va-1" ≤ 1 := by decide
  exact ⟨(reachable.spaced_iff_stakes_le_one (by decide) (by decide) rfl "va-1").mpr single, single⟩

/-- The work on a key fails, and the key is added again before its delay is over and fails again. -/
def hasty : TimedQueue String :=
  [.add "va-1", .get, .fail "va-1", .done "va-1", .wait 500000000,
    .add "va-1", .get, .fail "va-1", .done "va-1"].foldl after
      (opening (.ofSeconds 1) (.ofSeconds 300))

/-- The work on a key fails once for each of two alarms that ring one after the other. -/
def failsTwice (first second : Nat) : List (QueueEvent String) :=
  [.wait first, .ring ("va-1", first), .get, .fail "va-1", .done "va-1",
    .wait second, .ring ("va-1", second), .get, .fail "va-1", .done "va-1"]

/-- A key is added while its alarm is set, and never again. When both alarms of that time have rung,
its shifts still are closer together than their delays say. -/
theorem exists_unspaced_after_hasty :
    ∃ calm later : TimedQueue String,
      Reachable (.ofSeconds 1) (.ofSeconds 300) hasty ∧ "va-1" ∉ hasty.queue.dirty ∧
      Fails "va-1" hasty calm ∧ (∀ alarm ∈ calm.alarms, alarm ∉ hasty.alarms) ∧
      Fails "va-1" calm later ∧
      later.shifts "va-1" = [⟨10500000000, some 32000000000⟩, ⟨5000000000, some 16000000000⟩,
        ⟨2500000000, some 8000000000⟩, ⟨1000000000, some 4000000000⟩,
        ⟨500000000, some 2000000000⟩, ⟨0, some 1000000000⟩] ∧
      ¬ later.SpacedSince "va-1" calm := by
  refine ⟨(failsTwice 1000000000 2500000000).foldl after hasty,
    (failsTwice 5000000000 10500000000).foldl after
      ((failsTwice 1000000000 2500000000).foldl after hasty), Legal.leads (by decide), by decide,
    Legal.leads (by decide), by decide, Legal.leads (by decide), by decide, ?_⟩
  exact not_spacedSince rfl (by decide) rfl (by decide)

end TimedQueue

end VolumeAttacher
