import Mathlib.Algebra.Ring.Nat
import Mathlib.Data.List.Induction
import VolumeAttacher.Proofs.WorkQueue.Shifts

/-!
# Intervals

The interval after the next failure of a key is told by the number of its failures since it was last
forgotten, and by nothing else that ever happened to the queue: it is the first interval, doubled
with each of these failures, but at most the maximum.
-/

namespace VolumeAttacher

namespace QueueEvent

variable {Key : Type} [DecidableEq Key]

/-- The event is a failure of a key. -/
def isFailureOf (key : Key) : QueueEvent Key → Bool
  | .fail other => other = key
  | .add _ | .addAfter _ _ | .get | .forget _ | .done _ | .ring _ | .wait _ | .shutDown => false

/-- The event makes the queue forget the failures of a key. -/
def forgets (key : Key) : QueueEvent Key → Bool
  | .forget other => other = key
  | .add _ | .addAfter _ _ | .get | .fail _ | .done _ | .ring _ | .wait _ | .shutDown => false

/-- How often a key failed since it was last forgotten. -/
def failuresSince (key : Key) (events : List (QueueEvent Key)) : Nat :=
  (events.reverse.takeWhile fun event => !event.forgets key).countP (·.isFailureOf key)

variable {key : Key} {event : QueueEvent Key} {events others : List (QueueEvent Key)}

theorem failuresSince_concat_of_forgets (forgotten : event.forgets key = true) :
    failuresSince key (events ++ [event]) = 0 := by
  simp [failuresSince, forgotten]

theorem failuresSince_concat (kept : event.forgets key = false) :
    failuresSince key (events ++ [event]) =
      failuresSince key events + if event.isFailureOf key then 1 else 0 := by
  simp [failuresSince, kept, List.countP_cons]

/-- Events that are no failures of a key and do not make the queue forget it do not count. -/
theorem failuresSince_append
    (unrelated : ∀ event ∈ others, event.isFailureOf key = false ∧ event.forgets key = false) :
    failuresSince key (events ++ others) = failuresSince key events := by
  induction others using List.reverseRecOn with
  | nil => rw [List.append_nil]
  | append_singleton rest event inductionHypothesis =>
    obtain ⟨earlier, last⟩ := List.forall_mem_append.mp unrelated
    obtain ⟨harmless, kept⟩ := last event (List.mem_singleton_self event)
    rw [← List.append_assoc, failuresSince_concat kept, inductionHypothesis earlier, harmless]
    rfl

end QueueEvent

namespace WorkQueue

variable {Key : Type} [DecidableEq Key] {queue next : WorkQueue Key} {key : Key}

theorem lookup_filter_self {Value : Type} (entries : List (Key × Value)) (key : Key) :
    (entries.filter (·.1 ≠ key)).lookup key = none := by
  rw [List.lookup_eq_none_iff]
  intro entry present
  have differ : entry.1 ≠ key := of_decide_eq_true (List.mem_filter.mp present).2
  simpa using differ.symm

theorem backoff_forget_self (queue : WorkQueue Key) (key : Key) :
    (queue.forget key).backoff key = ⟨0, queue.start⟩ := by
  simp only [WorkQueue.backoff, forget, lookup_filter_self, Option.getD_none]

theorem backoff_fail_self (queue : WorkQueue Key) (key : Key) :
    (queue.fail key).1.backoff key =
      ⟨(queue.backoff key).count + 1, nextInterval queue.maximum (queue.backoff key).interval⟩ := by
  simp only [WorkQueue.backoff, fail, List.lookup_cons_self, Option.getD_some]

theorem backoff_of_handed (handed : queue.get = (next, .key key)) (other : Key) :
    next.backoff other = queue.backoff other := by
  obtain ⟨-, rest, -, rfl⟩ := eq_of_get handed
  rfl

theorem retries_eq (queue : WorkQueue Key) (key : Key) :
    queue.retries key = (queue.backoff key).count := by
  unfold retries WorkQueue.backoff
  cases queue.failures.lookup key <;> rfl

omit [DecidableEq Key] in
/-- Doubling what is cut to the maximum, and cutting again, is cutting what is doubled. -/
theorem nextInterval_min (maximum interval : Nat) :
    nextInterval maximum (min interval maximum) = min (2 * interval) maximum := by
  unfold nextInterval
  split <;> omega

end WorkQueue

namespace TimedQueue

variable {Key : Type} [DecidableEq Key] {timed : TimedQueue Key} {key : Key}
  {start maximum : Duration} {event : QueueEvent Key}

@[simp] theorem backoff_addAfter (timed : TimedQueue Key) (key other : Key) (nanos : Nat) :
    (timed.addAfter key nanos).queue.backoff other = timed.queue.backoff other := by
  obtain ⟨-, same⟩ | ⟨-, same⟩ := timed.addAfter_cases key nanos
  · rw [same]
    exact WorkQueue.backoff_add _ _ _
  · rw [same]

/-- A queue that forgets a key begins again with the first interval. -/
theorem backoff_after_of_forgets (forgotten : event.forgets key = true) :
    (timed.after event).queue.backoff key = ⟨0, timed.queue.start⟩ := by
  cases event with
  | forget other =>
    obtain rfl : other = key := by simpa [QueueEvent.forgets] using forgotten
    exact timed.queue.backoff_forget_self other
  | add | addAfter | get | fail | done | ring | wait | shutDown => cases forgotten

/-- A failure of a key leads to its next interval. -/
theorem backoff_after_of_isFailureOf (failed : event.isFailureOf key = true) :
    (timed.after event).queue.backoff key =
      ⟨(timed.queue.backoff key).count + 1,
        WorkQueue.nextInterval timed.queue.maximum (timed.queue.backoff key).interval⟩ := by
  cases event with
  | fail other =>
    obtain rfl : other = key := by simpa [QueueEvent.isFailureOf] using failed
    rw [after, fail_eq, backoff_addAfter, queue_withShifts]
    exact timed.queue.backoff_fail_self other
  | add | addAfter | get | forget | done | ring | wait | shutDown => cases failed

/-- No other event matters for the interval of a key. -/
theorem backoff_after_of_unrelated
    (harmless : event.isFailureOf key = false)
    (kept : event.forgets key = false) :
    (timed.after event).queue.backoff key = timed.queue.backoff key := by
  cases event with
  | add other => exact WorkQueue.backoff_add _ _ _
  | addAfter other nanos => exact backoff_addAfter _ _ _ _
  | get =>
    obtain ⟨queue, first, handed, same⟩ | same := timed.get_cases
    · rw [after, same, queue_withShifts, WorkQueue.backoff_of_handed handed]
    · rw [after, same]
  | fail other =>
    have differ : key ≠ other := by simpa [QueueEvent.isFailureOf, eq_comm] using harmless
    rw [after, fail_eq, backoff_addAfter, queue_withShifts]
    exact timed.queue.backoff_fail_of_ne differ
  | forget other =>
    have differ : key ≠ other := by simpa [QueueEvent.forgets, eq_comm] using kept
    exact timed.queue.backoff_forget_of_ne differ
  | done other => exact WorkQueue.backoff_done _ _ _
  | ring alarm => exact WorkQueue.backoff_add _ _ _
  | wait | shutDown => rfl

/-- The bounds of the intervals never change. -/
theorem bounds_after (timed : TimedQueue Key) (event : QueueEvent Key) :
    (timed.after event).queue.start = timed.queue.start ∧
      (timed.after event).queue.maximum = timed.queue.maximum := by
  have added (timed : TimedQueue Key) (key : Key) :
      (timed.add key).queue.start = timed.queue.start ∧
        (timed.add key).queue.maximum = timed.queue.maximum := by
    unfold add WorkQueue.add
    dsimp only
    split_ifs <;> exact ⟨rfl, rfl⟩
  have delayed (timed : TimedQueue Key) (key : Key) (nanos : Nat) :
      (timed.addAfter key nanos).queue.start = timed.queue.start ∧
        (timed.addAfter key nanos).queue.maximum = timed.queue.maximum := by
    obtain ⟨-, same⟩ | ⟨-, same⟩ := timed.addAfter_cases key nanos
    · rw [same]
      exact added timed key
    · rw [same]
      exact ⟨rfl, rfl⟩
  cases event with
  | add key => exact added timed key
  | addAfter key nanos => exact delayed timed key nanos
  | get =>
    obtain ⟨queue, first, handed, same⟩ | same := timed.get_cases
    · obtain ⟨-, rest, -, shape⟩ := WorkQueue.eq_of_get handed
      rw [after, same, queue_withShifts, shape]
      exact ⟨rfl, rfl⟩
    · rw [after, same]
      exact ⟨rfl, rfl⟩
  | fail key => exact delayed _ key _
  | done key =>
    unfold after WorkQueue.done
    dsimp only
    split_ifs <;> exact ⟨rfl, rfl⟩
  | ring alarm => exact added _ alarm.1
  | forget | wait | shutDown => exact ⟨rfl, rfl⟩

/-- What comes of a queue that nothing happened to when events happen in order. -/
def run (start maximum : Duration) (events : List (QueueEvent Key)) : TimedQueue Key :=
  events.foldl after (opening start maximum)

theorem run_concat (events : List (QueueEvent Key)) (event : QueueEvent Key) :
    run start maximum (events ++ [event]) = (run start maximum events).after event :=
  List.foldl_concat ..

theorem bounds_run (start maximum : Duration) (events : List (QueueEvent Key)) :
    (run start maximum events).queue.start = start.nanos ∧
      (run start maximum events).queue.maximum = maximum.nanos := by
  induction events using List.reverseRecOn with
  | nil => exact ⟨rfl, rfl⟩
  | append_singleton earlier event inductionHypothesis =>
    obtain ⟨sameStart, sameMaximum⟩ := (run start maximum earlier).bounds_after event
    rw [run_concat]
    exact ⟨sameStart.trans inductionHypothesis.1, sameMaximum.trans inductionHypothesis.2⟩

/-- What a queue remembers of a key tells how often it failed since it was last forgotten. -/
theorem backoff_run
    (ordered : start.nanos ≤ maximum.nanos)
    (events : List (QueueEvent Key))
    (key : Key) :
    (run start maximum events).queue.backoff key =
      ⟨QueueEvent.failuresSince key events,
        min (start.nanos * 2 ^ QueueEvent.failuresSince key events) maximum.nanos⟩ := by
  induction events using List.reverseRecOn with
  | nil =>
    simp [run, opening, QueueEvent.failuresSince, WorkQueue.backoff, WorkQueue.empty, ordered]
  | append_singleton earlier event inductionHypothesis =>
    obtain ⟨sameStart, sameMaximum⟩ := bounds_run start maximum earlier
    rw [run_concat]
    cases forgotten : event.forgets key with
    | true =>
      rw [QueueEvent.failuresSince_concat_of_forgets forgotten,
        backoff_after_of_forgets forgotten, sameStart]
      simp [ordered]
    | false =>
      rw [QueueEvent.failuresSince_concat forgotten]
      cases failed : event.isFailureOf key with
      | true =>
        rw [backoff_after_of_isFailureOf failed, inductionHypothesis, sameMaximum,
          WorkQueue.nextInterval_min]
        simp only [if_true, Nat.pow_succ, Nat.mul_comm, Nat.mul_left_comm]
      | false =>
        rw [backoff_after_of_unrelated failed forgotten, inductionHypothesis]
        rfl

/-- A failure of a key sets an alarm after a delay, and does nothing else for the key. -/
def Delays (timed : TimedQueue Key) (key : Key) (delay : Nat) : Prop :=
  (timed.after (.fail key)).alarms = (key, timed.now + delay) :: timed.alarms ∧
    (timed.after (.fail key)).queue.dirty = timed.queue.dirty ∧
    (timed.after (.fail key)).queue.waiting = timed.queue.waiting

/-- A failure delays a key by the interval that the queue remembers. -/
theorem delays_interval (positive : 0 < (timed.queue.backoff key).interval) :
    timed.Delays key (timed.queue.backoff key).interval := by
  have delay : (timed.queue.fail key).2 = (timed.queue.backoff key).interval := rfl
  unfold Delays
  rw [after, fail_eq, delay]
  obtain ⟨zero, -⟩ | ⟨-, same⟩ := addAfter_cases
    (timed.withShifts (timed.queue.fail key).1 key
      (Shift.settle (timed.queue.backoff key).interval (timed.shifts key))) key
    (timed.queue.backoff key).interval
  · exact absurd zero (Nat.pos_iff_ne_zero.mp positive)
  · rw [same]
    exact ⟨rfl, rfl, rfl⟩

/-- Whatever happens to a queue in whatever order, its count for a key is the number of failures of
the key since it was last forgotten, and the next failure delays the key by the first interval
doubled as many times, but at most by the maximum. What else happens to the queue does not change
this. -/
theorem delay_doubles_up_to_maximum
    (positive : 0 < start.nanos)
    (ordered : start.nanos ≤ maximum.nanos)
    (events : List (QueueEvent Key))
    (key : Key) :
    let failures := QueueEvent.failuresSince key events
    let delay := min (start.nanos * 2 ^ failures) maximum.nanos
    ((run start maximum events).queue.retries key = failures ∧
      (run start maximum events).Delays key delay) ∧
      ∀ others : List (QueueEvent Key),
        (∀ event ∈ others, event.isFailureOf key = false ∧ event.forgets key = false) →
          (run start maximum (events ++ others)).queue.retries key = failures ∧
            (run start maximum (events ++ others)).Delays key delay := by
  have law (events : List (QueueEvent Key)) :
      (run start maximum events).queue.retries key = QueueEvent.failuresSince key events ∧
        (run start maximum events).Delays key
          (min (start.nanos * 2 ^ QueueEvent.failuresSince key events) maximum.nanos) := by
    have remembered := backoff_run ordered events key
    have doubled : 0 < start.nanos * 2 ^ QueueEvent.failuresSince key events :=
      Nat.mul_pos positive (Nat.two_pow_pos _)
    have interval : ((run start maximum events).queue.backoff key).interval =
        min (start.nanos * 2 ^ QueueEvent.failuresSince key events) maximum.nanos :=
      congrArg Backoff.interval remembered
    refine ⟨(WorkQueue.retries_eq _ key).trans (congrArg Backoff.count remembered), ?_⟩
    rw [← interval]
    refine delays_interval ?_
    rw [interval]
    exact Nat.lt_min.mpr ⟨doubled, Nat.lt_of_lt_of_le positive ordered⟩
  refine ⟨law events, fun others unrelated => ?_⟩
  rw [← QueueEvent.failuresSince_append unrelated]
  exact law (events ++ others)

/-- A key that failed three times since it was forgotten, between failures of another one, is
delayed by the maximum. -/
theorem delay_is_maximum_after_three :
    let events : List (QueueEvent String) :=
      [.add "va-1", .get, .fail "va-1", .forget "va-1", .fail "va-1", .fail "va-2", .done "va-1",
        .fail "va-1", .forget "va-2", .addAfter "va-1" 7, .fail "va-1"]
    0 < (Duration.ofSeconds 1).nanos ∧
      (Duration.ofSeconds 1).nanos ≤ (Duration.ofSeconds 5).nanos ∧
      QueueEvent.failuresSince "va-1" events = 3 ∧
      (run (.ofSeconds 1) (.ofSeconds 5) events).queue.retries "va-1" = 3 ∧
      (run (.ofSeconds 1) (.ofSeconds 5) events).Delays "va-1" 5000000000 := by
  intro events
  have law := (delay_doubles_up_to_maximum (by decide : 0 < (Duration.ofSeconds 1).nanos)
    (by decide : (Duration.ofSeconds 1).nanos ≤ (Duration.ofSeconds 5).nanos) events "va-1").1
  exact ⟨by decide, by decide, by decide, law.1, law.2⟩

end TimedQueue

end VolumeAttacher
