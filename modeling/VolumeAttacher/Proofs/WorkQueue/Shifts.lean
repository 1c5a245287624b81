import Mathlib.Data.List.Count
import Mathlib.Logic.Function.Basic
import Mathlib.Logic.Relation
import VolumeAttacher.Proofs.WorkQueue

/-!
# Shifts

A queue with a clock, and the times at which each key was handed out. A worker that fails puts its
key back after a delay. What can bring a key to a worker again are its stakes: that it is to be
worked on, that a worker has it and may put it back, and every alarm that is set for it. While all
work on a key fails and nobody else adds it, it gets no new stakes, so with a single one its shifts
are as far apart as the delays say.
-/

namespace VolumeAttacher

/-- One time that a key was handed out, and the delay after which the worker put it back, if it
did. -/
structure Shift where
  time : Nat
  delay : Option Nat
  deriving DecidableEq

namespace Shift

/-- The delay of the latest shift is chosen. -/
def settle (delay : Nat) : List Shift → List Shift
  | [] => []
  | shift :: earlier => { shift with delay := some delay } :: earlier

/-- No shift begins before the delay of the shift before it is over. The latest one comes first. -/
def Spaced : List Shift → Prop
  | [] => True
  | shift :: earlier =>
    (∀ last ∈ earlier.head?, ∀ delay ∈ last.delay, last.time + delay ≤ shift.time) ∧ Spaced earlier

theorem length_settle (delay : Nat) (shifts : List Shift) :
    (settle delay shifts).length = shifts.length := by
  cases shifts <;> rfl

theorem settle_ne_nil {delay : Nat} {shifts : List Shift} (nonempty : shifts ≠ []) :
    settle delay shifts ≠ [] := by
  rw [← List.length_pos_iff, length_settle]
  exact List.length_pos_iff.mpr nonempty

theorem times_settle
    {delay moment : Nat}
    {shifts : List Shift}
    (times : ∀ shift ∈ shifts, shift.time ≤ moment) :
    ∀ shift ∈ settle delay shifts, shift.time ≤ moment := by
  cases shifts with
  | nil => exact times
  | cons shift earlier => simpa [settle] using times

theorem delay_settle {delay : Nat} {shifts : List Shift} (nonempty : shifts ≠ []) :
    (settle delay shifts).head?.bind Shift.delay = some delay := by
  cases shifts with
  | nil => exact absurd rfl nonempty
  | cons shift earlier => rfl

theorem Spaced.settle {shifts : List Shift} (spaced : Spaced shifts) (delay : Nat) :
    Spaced (settle delay shifts) := by
  cases shifts with
  | nil => exact spaced
  | cons shift earlier => exact spaced

end Shift

/-- A queue, the time, the keys that come to it at a time, and the shifts of every key, the latest
one first. -/
structure TimedQueue (Key : Type) where
  queue : WorkQueue Key
  now : Nat
  alarms : List (Key × Nat)
  shifts : Key → List Shift

/-- Something that may happen to a queue. -/
inductive QueueEvent (Key : Type) where
  | add (key : Key)
  | addAfter (key : Key) (nanos : Nat)
  | get
  /-- The work on a key failed, and the worker puts it back after its next interval. -/
  | fail (key : Key)
  | forget (key : Key)
  | done (key : Key)
  | ring (alarm : Key × Nat)
  | wait (moment : Nat)
  | shutDown

namespace TimedQueue

variable {Key : Type} [DecidableEq Key] {timed next : TimedQueue Key} {key : Key}

/-- A queue that nothing happened to. -/
def opening (start maximum : Duration) : TimedQueue Key :=
  ⟨.empty start maximum, 0, [], fun _ => []⟩

/-- The delay that was chosen in the latest shift of a key. -/
def lastDelay? (timed : TimedQueue Key) (key : Key) : Option Nat :=
  (timed.shifts key).head?.bind Shift.delay

/-- A worker has a key and did not put it back yet. -/
def Works (timed : TimedQueue Key) (key : Key) : Prop :=
  key ∈ timed.queue.processing ∧ timed.lastDelay? key = none

instance (timed : TimedQueue Key) (key : Key) : Decidable (timed.Works key) :=
  inferInstanceAs (Decidable (_ ∧ _))

/-- A key is added. -/
def add (timed : TimedQueue Key) (key : Key) : TimedQueue Key :=
  { timed with queue := (timed.queue.add key).1 }

/-- A key is added after a time in nanoseconds, at once if that is zero. -/
def addAfter (timed : TimedQueue Key) (key : Key) (nanos : Nat) : TimedQueue Key :=
  if nanos = 0 then timed.add key
  else { timed with alarms := (key, timed.now + nanos) :: timed.alarms }

/-- The queue and the shifts of a key change. -/
def withShifts (timed : TimedQueue Key) (queue : WorkQueue Key) (key : Key) (shifts : List Shift) :
    TimedQueue Key :=
  { timed with queue, shifts := Function.update timed.shifts key shifts }

/-- A worker asks for a key. -/
def get (timed : TimedQueue Key) : TimedQueue Key :=
  match timed.queue.get with
  | (queue, .key key) => timed.withShifts queue key (⟨timed.now, none⟩ :: timed.shifts key)
  | _ => timed

/-- A worker puts its key back after the next interval. -/
def fail (timed : TimedQueue Key) (key : Key) : TimedQueue Key :=
  let (queue, delay) := timed.queue.fail key
  (timed.withShifts queue key (Shift.settle delay (timed.shifts key))).addAfter key delay

/-- The queue after an event. -/
def after (timed : TimedQueue Key) : QueueEvent Key → TimedQueue Key
  | .add key => timed.add key
  | .addAfter key nanos => timed.addAfter key nanos
  | .get => timed.get
  | .fail key => timed.fail key
  | .forget key => { timed with queue := timed.queue.forget key }
  | .done key => { timed with queue := (timed.queue.done key).1 }
  | .ring alarm => { timed with alarms := timed.alarms.erase alarm }.add alarm.1
  | .wait moment => { timed with now := moment }
  | .shutDown => { timed with queue := timed.queue.shutDown }

/-- An event may happen: a worker puts its key back at most once and is done only with a key that it
has, and alarms ring at their time or later. -/
def MayHappen (timed : TimedQueue Key) : QueueEvent Key → Prop
  | .fail key => timed.Works key
  | .done key => key ∈ timed.queue.processing
  | .ring alarm => alarm ∈ timed.alarms ∧ alarm.2 ≤ timed.now
  | .wait moment => timed.now ≤ moment
  | .add _ | .addAfter _ _ | .get | .forget _ | .shutDown => True

/-- An event leaves a key to its workers, all of whose work on it fails. -/
def Leaves (timed : TimedQueue Key) (key : Key) : QueueEvent Key → Prop
  | .add other | .addAfter other _ | .forget other => other ≠ key
  | .done other => other = key → ¬ timed.Works key
  | .get | .fail _ | .ring _ | .wait _ | .shutDown => True

/-- One step of a queue whose events are among those that are allowed. -/
def Step (allowed : TimedQueue Key → QueueEvent Key → Prop) (timed next : TimedQueue Key) : Prop :=
  ∃ event, timed.MayHappen event ∧ allowed timed event ∧ next = timed.after event

/-- What may come of a queue when the allowed events happen. -/
def Leads (allowed : TimedQueue Key → QueueEvent Key → Prop) :
    TimedQueue Key → TimedQueue Key → Prop :=
  Relation.ReflTransGen (Step allowed)

/-- What may come of a queue that nothing happened to. -/
def Reachable (start maximum : Duration) (timed : TimedQueue Key) : Prop :=
  Leads (fun _ _ => True) (opening start maximum) timed

/-- What may come of a queue while all work on a key fails and nobody else adds it. -/
def Fails (key : Key) : TimedQueue Key → TimedQueue Key → Prop :=
  Leads fun timed event => timed.Leaves key event

/-- What can bring a key to a worker again. -/
def stakes (timed : TimedQueue Key) (key : Key) : Nat :=
  (if key ∈ timed.queue.dirty then 1 else 0) + (if timed.Works key then 1 else 0) +
    timed.alarms.countP (·.1 = key)

/-- The shifts of a key since an earlier time are as far apart as their delays say. -/
def SpacedSince (timed : TimedQueue Key) (key : Key) (earlier : TimedQueue Key) : Prop :=
  ∀ recent old, timed.shifts key = recent ++ old → old.length = (earlier.shifts key).length →
    Shift.Spaced recent

/-- The queue is sound, every key that a worker has was handed out, and no shift begins later than
now. -/
structure Sound (timed : TimedQueue Key) : Prop where
  queue : timed.queue.Sound
  handed : ∀ key ∈ timed.queue.processing, timed.shifts key ≠ []
  times : ∀ key, ∀ shift ∈ timed.shifts key, shift.time ≤ timed.now

/-- A worker that asks for a key gets the first one that waits, or nothing happens. -/
theorem get_cases (timed : TimedQueue Key) :
    (∃ queue key, timed.queue.get = (queue, .key key) ∧
      timed.get = timed.withShifts queue key (⟨timed.now, none⟩ :: timed.shifts key)) ∨
      timed.get = timed := by
  unfold get
  split
  · next queue key handed => exact .inl ⟨queue, key, handed, rfl⟩
  · exact .inr rfl

theorem fail_eq (timed : TimedQueue Key) (key : Key) :
    timed.fail key =
      (timed.withShifts (timed.queue.fail key).1 key
        (Shift.settle (timed.queue.fail key).2 (timed.shifts key))).addAfter key
          (timed.queue.fail key).2 :=
  rfl

theorem addAfter_cases (timed : TimedQueue Key) (key : Key) (nanos : Nat) :
    nanos = 0 ∧ timed.addAfter key nanos = timed.add key ∨
      nanos ≠ 0 ∧ timed.addAfter key nanos =
        { timed with alarms := (key, timed.now + nanos) :: timed.alarms } := by
  unfold addAfter
  split_ifs with zero
  · exact .inl ⟨zero, rfl⟩
  · exact .inr ⟨zero, rfl⟩

section Views

variable (timed : TimedQueue Key) (queue : WorkQueue Key) (shifts : List Shift) (nanos : Nat)

@[simp] theorem queue_withShifts (key : Key) :
    (timed.withShifts queue key shifts).queue = queue := rfl

@[simp] theorem alarms_withShifts (key : Key) :
    (timed.withShifts queue key shifts).alarms = timed.alarms := rfl

@[simp] theorem shifts_withShifts_self (key : Key) :
    (timed.withShifts queue key shifts).shifts key = shifts :=
  Function.update_self ..

theorem shifts_withShifts_of_ne {key other : Key} (differ : other ≠ key) :
    (timed.withShifts queue key shifts).shifts other = timed.shifts other :=
  Function.update_of_ne differ ..

@[simp] theorem shifts_addAfter (key : Key) :
    (timed.addAfter key nanos).shifts = timed.shifts := by
  obtain ⟨-, same⟩ | ⟨-, same⟩ := timed.addAfter_cases key nanos
  · rw [same, TimedQueue.add]
  · rw [same]

@[simp] theorem processing_addAfter (key : Key) :
    (timed.addAfter key nanos).queue.processing = timed.queue.processing := by
  obtain ⟨-, same⟩ | ⟨-, same⟩ := timed.addAfter_cases key nanos
  · rw [same]
    exact WorkQueue.processing_add _ _
  · rw [same]

end Views

namespace Sound

omit [DecidableEq Key] in
theorem opening (start maximum : Duration) : (opening start maximum : TimedQueue Key).Sound where
  queue := .empty start maximum
  handed := nofun
  times := nofun

theorem add (sound : timed.Sound) (key : Key) : (timed.add key).Sound where
  queue := sound.queue.add key
  handed other taken := by
    have taken : other ∈ timed.queue.processing := by simpa [TimedQueue.add] using taken
    exact sound.handed other taken
  times := sound.times

theorem addAfter (sound : timed.Sound) (key : Key) (nanos : Nat) :
    (timed.addAfter key nanos).Sound := by
  obtain ⟨-, same⟩ | ⟨-, same⟩ := timed.addAfter_cases key nanos
  · rw [same]
    exact sound.add key
  · rw [same]
    exact ⟨sound.queue, sound.handed, sound.times⟩

/-- The shifts of one key change, which may come to a worker. -/
theorem withShifts
    {queue : WorkQueue Key}
    {shifts : List Shift}
    (sound : timed.Sound)
    (queueSound : queue.Sound)
    (taken : ∀ other ∈ queue.processing, other ≠ key → other ∈ timed.queue.processing)
    (nonempty : key ∈ queue.processing → shifts ≠ [])
    (times : ∀ shift ∈ shifts, shift.time ≤ timed.now) :
    (timed.withShifts queue key shifts).Sound := by
  refine ⟨queueSound, fun other has => ?_, fun other => ?_⟩
  all_goals
    by_cases same : other = key
    · subst same
      rw [shifts_withShifts_self]
      first
      | exact nonempty has
      | exact times
    · rw [shifts_withShifts_of_ne _ _ _ same]
      first
      | exact sound.handed other (taken other has same)
      | exact sound.times other

theorem get (sound : timed.Sound) : timed.get.Sound := by
  obtain ⟨queue, key, handed, same⟩ | same := timed.get_cases
  · obtain ⟨-, rest, -, next⟩ := WorkQueue.eq_of_get handed
    rw [same]
    refine sound.withShifts (sound.queue.get handed) (fun other has differs => ?_)
      (fun _ => List.cons_ne_nil _ _) (List.forall_mem_cons.mpr ⟨Nat.le_refl _, sound.times key⟩)
    simpa [next, differs] using has
  · rw [same]
    exact sound

theorem fail (sound : timed.Sound) (key : Key) : (timed.fail key).Sound := by
  have queue : (timed.queue.fail key).1.Sound := sound.queue.remember _
  rw [fail_eq]
  refine Sound.addAfter ?_ key _
  exact sound.withShifts queue (fun other has _ => has)
    (fun has => Shift.settle_ne_nil (sound.handed key has)) (Shift.times_settle (sound.times key))

theorem after {event : QueueEvent Key} (sound : timed.Sound) (mayHappen : timed.MayHappen event) :
    (timed.after event).Sound := by
  cases event with
  | add key => exact sound.add key
  | addAfter key nanos => exact sound.addAfter key nanos
  | get => exact sound.get
  | fail key => exact sound.fail key
  | forget key => exact ⟨sound.queue.remember _, sound.handed, sound.times⟩
  | done key =>
    refine ⟨sound.queue.done mayHappen, fun other has => sound.handed other ?_, sound.times⟩
    simp only [TimedQueue.after, WorkQueue.processing_done, List.mem_filter] at has
    exact has.1
  | ring alarm =>
    have erased : Sound { timed with alarms := timed.alarms.erase alarm } :=
      ⟨sound.queue, sound.handed, sound.times⟩
    exact erased.add alarm.1
  | wait moment =>
    exact ⟨sound.queue, sound.handed, fun key shift present =>
      Nat.le_trans (sound.times key shift present) mayHappen⟩
  | shutDown => exact ⟨sound.queue.shutDown, sound.handed, sound.times⟩

end Sound

/-- What comes of a sound queue is sound. -/
theorem Leads.sound
    {allowed : TimedQueue Key → QueueEvent Key → Prop}
    (leads : Leads allowed timed next)
    (sound : timed.Sound) :
    next.Sound := by
  induction leads with
  | refl => exact sound
  | tail _ step inductionHypothesis =>
    obtain ⟨event, mayHappen, -, rfl⟩ := step
    exact inductionHypothesis.after mayHappen

/-! ## Stakes -/

omit [DecidableEq Key] in
/-- What has the same shifts and the same worker has the same chance to be put back. -/
theorem works_congr
    (shifts : next.shifts key = timed.shifts key)
    (processing : key ∈ next.queue.processing ↔ key ∈ timed.queue.processing) :
    next.Works key ↔ timed.Works key := by
  rw [Works, Works, lastDelay?, lastDelay?, shifts, processing]

theorem stakes_congr
    (dirty : key ∈ next.queue.dirty ↔ key ∈ timed.queue.dirty)
    (works : next.Works key ↔ timed.Works key)
    (alarms : next.alarms.countP (·.1 = key) = timed.alarms.countP (·.1 = key)) :
    next.stakes key = timed.stakes key := by
  simp only [stakes, dirty, works, alarms]

/-- A key that is added gets at most one more stake, and no other key does. -/
theorem stakes_add_le (timed : TimedQueue Key) (key other : Key) :
    (timed.add other).stakes key ≤ timed.stakes key + if key = other then 1 else 0 := by
  have works : (timed.add other).Works key ↔ timed.Works key :=
    works_congr rfl (by simp [add])
  have dirty : key ∈ (timed.add other).queue.dirty → key ∈ timed.queue.dirty ∨ key = other := by
    intro marked
    exact (WorkQueue.mem_dirty_add.mp marked).imp_right And.right
  simp only [stakes, works]
  have alarms : (timed.add other).alarms = timed.alarms := rfl
  rw [alarms]
  split_ifs <;> first | omega | tauto

theorem stakes_addAfter_le (timed : TimedQueue Key) (key other : Key) (nanos : Nat) :
    (timed.addAfter other nanos).stakes key ≤ timed.stakes key + if key = other then 1 else 0 := by
  obtain ⟨-, same⟩ | ⟨-, same⟩ := timed.addAfter_cases other nanos
  · rw [same]
    exact timed.stakes_add_le key other
  · rw [same]
    have works : Works { timed with alarms := (other, timed.now + nanos) :: timed.alarms } key ↔
        timed.Works key := Iff.rfl
    simp only [stakes, works, List.countP_cons, eq_comm (a := other)]
    simp only [decide_eq_true_eq]
    omega

/-- A key that is handed out is with a worker instead of waiting for one. -/
theorem stakes_get (sound : timed.Sound) (key : Key) : timed.get.stakes key = timed.stakes key := by
  obtain ⟨queue, first, handed, same⟩ | same := timed.get_cases
  · obtain ⟨-, rest, waiting, next⟩ := WorkQueue.eq_of_get handed
    rw [same]
    by_cases equal : key = first
    · subst equal
      have waits : key ∈ timed.queue.waiting := waiting ▸ List.mem_cons_self
      have marked : key ∈ timed.queue.dirty := sound.queue.dirty key waits
      have idle : ¬ timed.Works key := fun works => sound.queue.free key waits works.1
      have works : (timed.withShifts queue key (⟨timed.now, none⟩ :: timed.shifts key)).Works key :=
        ⟨by simp [withShifts, next], by simp [lastDelay?]⟩
      have unmarked : key ∉ queue.dirty := by simp [next]
      simp [stakes, marked, idle, works, unmarked]
    · refine stakes_congr ?_ (works_congr ?_ ?_) rfl
      · simp [next, equal]
      · exact shifts_withShifts_of_ne _ _ _ equal
      · simp [next, equal]
  · rw [same]

/-- A worker that puts its key back gives one stake for another. -/
theorem stakes_fail_le
    {other : Key}
    (sound : timed.Sound)
    (works : timed.Works other)
    (key : Key) :
    (timed.fail other).stakes key ≤ timed.stakes key := by
  rw [fail_eq]
  refine Nat.le_trans (stakes_addAfter_le _ key other _) ?_
  by_cases same : key = other
  · subst same
    have settled : ¬ (timed.withShifts (timed.queue.fail key).1 key
        (Shift.settle (timed.queue.fail key).2 (timed.shifts key))).Works key := by
      rintro ⟨-, none⟩
      rw [lastDelay?, shifts_withShifts_self,
        Shift.delay_settle (sound.handed key works.1)] at none
      cases none
    have dirty : (timed.queue.fail key).1.dirty = timed.queue.dirty := rfl
    simp only [stakes, works, settled, queue_withShifts, alarms_withShifts, dirty, if_true,
      if_false]
    omega
  · rw [if_neg same]
    refine Nat.le_of_eq (stakes_congr Iff.rfl (works_congr ?_ Iff.rfl) rfl)
    exact shifts_withShifts_of_ne _ _ _ same

/-- An alarm that rings gives one stake for another. -/
theorem stakes_ring_le
    {alarm : Key × Nat}
    (isSet : alarm ∈ timed.alarms)
    (key : Key) :
    (timed.after (.ring alarm)).stakes key ≤ timed.stakes key := by
  refine Nat.le_trans (stakes_add_le _ key alarm.1) ?_
  have count := (List.perm_cons_erase isSet).countP_eq (·.1 = key)
  rw [List.countP_cons] at count
  have works : Works { timed with alarms := timed.alarms.erase alarm } key ↔ timed.Works key :=
    Iff.rfl
  simp only [stakes, works]
  simp only [decide_eq_true_eq, eq_comm (a := alarm.1)] at count
  omega

/-- A key gets no new stakes while all work on it fails and nobody else adds it. -/
theorem stakes_after_le
    {event : QueueEvent Key}
    (sound : timed.Sound)
    (mayHappen : timed.MayHappen event)
    (leaves : timed.Leaves key event) :
    (timed.after event).stakes key ≤ timed.stakes key := by
  cases event with
  | add other => simpa [after, Ne.symm leaves] using timed.stakes_add_le key other
  | addAfter other nanos =>
    simpa [after, Ne.symm leaves] using timed.stakes_addAfter_le key other nanos
  | get => exact Nat.le_of_eq (stakes_get sound key)
  | fail other => exact stakes_fail_le sound mayHappen key
  | done other =>
    refine Nat.le_of_eq (stakes_congr (by simp [after]) ?_ rfl)
    by_cases same : other = key
    · subst same
      exact iff_of_false (by simp [Works, after]) (leaves rfl)
    · exact works_congr rfl (by simp [after, Ne.symm same])
  | ring alarm => exact stakes_ring_le mayHappen.1 key
  | forget | wait | shutDown => exact Nat.le_of_eq (stakes_congr Iff.rfl Iff.rfl rfl)

/-! ## Spacing -/

/-- Neither the queue nor an alarm brings a key to a worker before a moment. -/
def RestsUntil (timed : TimedQueue Key) (key : Key) (moment : Nat) : Prop :=
  (key ∈ timed.queue.dirty → moment ≤ timed.now) ∧
    ∀ alarm ∈ timed.alarms, alarm.1 = key → moment ≤ alarm.2

/-- The shifts of a key after the first `count` are as far apart as their delays say, and nothing
brings the key to a worker before the delay of the latest one is over. -/
def Paced (count : Nat) (key : Key) (timed : TimedQueue Key) : Prop :=
  ∃ recent old, timed.shifts key = recent ++ old ∧ old.length = count ∧ Shift.Spaced recent ∧
    ∀ last ∈ recent.head?, (last.delay = none → timed.Works key) ∧
      ∀ delay ∈ last.delay, timed.RestsUntil key (last.time + delay)

namespace Paced

variable {count : Nat}

omit [DecidableEq Key] in
theorem opening (timed : TimedQueue Key) (key : Key) :
    Paced (timed.shifts key).length key timed :=
  ⟨[], timed.shifts key, rfl, rfl, trivial, nofun⟩

omit [DecidableEq Key] in
theorem spaced
    {earlier : TimedQueue Key}
    (paced : Paced (earlier.shifts key).length key timed) :
    timed.SpacedSince key earlier := by
  intro recent old split length
  obtain ⟨others, first, same, otherLength, spaced, -⟩ := paced
  rw [split] at same
  obtain ⟨rfl, -⟩ := List.append_inj' same (length.trans otherLength.symm)
  exact spaced

omit [DecidableEq Key] in
/-- What leaves a key and its alarms as they are keeps its pace. -/
theorem mono
    (paced : Paced count key timed)
    (shifts : next.shifts key = timed.shifts key)
    (works : timed.Works key → next.Works key)
    (rests : ∀ moment, timed.RestsUntil key moment → next.RestsUntil key moment) :
    Paced count key next := by
  obtain ⟨recent, old, split, length, spaced, latest⟩ := paced
  refine ⟨recent, old, shifts.trans split, length, spaced, fun last isLast => ?_⟩
  obtain ⟨working, delayed⟩ := latest last isLast
  exact ⟨fun none => works (working none), fun delay isDelay => rests _ (delayed delay isDelay)⟩

end Paced

namespace RestsUntil

variable {moment : Nat}

theorem add
    {other : Key}
    (rests : timed.RestsUntil key moment)
    (due : key = other → moment ≤ timed.now) :
    (timed.add other).RestsUntil key moment := by
  refine ⟨fun marked => ?_, rests.2⟩
  obtain marked | ⟨-, same⟩ := WorkQueue.mem_dirty_add.mp marked
  · exact rests.1 marked
  · exact due same

theorem addAfter
    {other : Key}
    {nanos : Nat}
    (rests : timed.RestsUntil key moment)
    (due : key = other → moment ≤ timed.now + nanos) :
    (timed.addAfter other nanos).RestsUntil key moment := by
  obtain ⟨zero, same⟩ | ⟨-, same⟩ := timed.addAfter_cases other nanos
  · subst zero
    rw [same]
    exact rests.add due
  · rw [same]
    refine ⟨rests.1, List.forall_mem_cons.mpr ⟨fun equal => due equal.symm, rests.2⟩⟩

/-- A key with a single stake rests while a worker has it. -/
theorem of_works
    (works : timed.Works key)
    (single : timed.stakes key ≤ 1)
    (moment : Nat) :
    timed.RestsUntil key moment := by
  simp only [stakes, works, if_true] at single
  constructor
  · intro marked
    simp only [marked, if_true] at single
    omega
  · intro alarm isSet about
    have positive : 0 < timed.alarms.countP (·.1 = key) :=
      List.countP_pos_iff.mpr ⟨alarm, isSet, by simpa using about⟩
    omega

end RestsUntil

namespace Paced

variable {count : Nat}

theorem add
    {other : Key}
    (paced : Paced count key timed)
    (differ : other ≠ key) :
    Paced count key (timed.add other) :=
  have works : (timed.add other).Works key ↔ timed.Works key :=
    works_congr rfl (by simp [TimedQueue.add])
  paced.mono rfl works.mpr fun _ rests => rests.add fun same => absurd same.symm differ

theorem addAfter
    {other : Key}
    (paced : Paced count key timed)
    (differ : other ≠ key)
    (nanos : Nat) :
    Paced count key (timed.addAfter other nanos) :=
  paced.mono (by simp) (works_congr (by simp) (by simp)).mpr
    fun _ rests => rests.addAfter fun same => absurd same.symm differ

/-- A key is handed out when the delay of its last shift is over. -/
theorem get (sound : timed.Sound) (paced : Paced count key timed) : Paced count key timed.get := by
  obtain ⟨queue, first, handed, same⟩ | same := timed.get_cases
  · obtain ⟨-, rest, waiting, next⟩ := WorkQueue.eq_of_get handed
    rw [same]
    by_cases equal : key = first
    · subst equal
      have waits : key ∈ timed.queue.waiting := waiting ▸ List.mem_cons_self
      obtain ⟨recent, old, split, length, spaced, latest⟩ := paced
      refine ⟨⟨timed.now, none⟩ :: recent, old, ?_, length, ⟨?_, spaced⟩, ?_⟩
      · rw [shifts_withShifts_self, split, List.cons_append]
      · intro last isLast delay isDelay
        exact ((latest last isLast).2 delay isDelay).1 (sound.queue.dirty key waits)
      · rintro last ⟨⟩
        exact ⟨fun _ => ⟨by simp [next], by simp [lastDelay?]⟩, nofun⟩
    · refine paced.mono (shifts_withShifts_of_ne _ _ _ equal) (works_congr ?_ ?_).mpr ?_
      · exact shifts_withShifts_of_ne _ _ _ equal
      · simp [next, equal]
      · intro moment rests
        refine ⟨fun marked => rests.1 ?_, rests.2⟩
        simpa [next, equal] using marked
  · rw [same]
    exact paced

/-- A key is put back for the time when its delay is over. -/
theorem fail
    {other : Key}
    (sound : timed.Sound)
    (single : timed.stakes key ≤ 1)
    (works : timed.Works other)
    (paced : Paced count key timed) :
    Paced count key (timed.fail other) := by
  rw [fail_eq]
  by_cases same : other = key
  · subst same
    obtain ⟨recent, old, split, length, spaced, latest⟩ := paced
    cases recent with
    | nil =>
      refine ⟨[], Shift.settle (timed.queue.fail other).2 old, ?_, ?_, trivial, nofun⟩
      · rw [shifts_addAfter, shifts_withShifts_self, split, List.nil_append, List.nil_append]
      · rw [Shift.length_settle, length]
    | cons shift earlier =>
      have begun : shift.time ≤ timed.now :=
        sound.times other shift (split ▸ List.mem_cons_self)
      refine ⟨Shift.settle (timed.queue.fail other).2 (shift :: earlier), old, ?_, length,
        spaced.settle _, ?_⟩
      · rw [shifts_addAfter, shifts_withShifts_self, split]
        rfl
      · rintro last ⟨⟩
        refine ⟨nofun, ?_⟩
        rintro delay ⟨⟩
        have rests := RestsUntil.of_works works single (shift.time + (timed.queue.fail other).2)
        exact RestsUntil.addAfter ⟨rests.1, rests.2⟩ fun _ => Nat.add_le_add_right begun _
  · have kept : (timed.withShifts (timed.queue.fail other).1 other
        (Shift.settle (timed.queue.fail other).2 (timed.shifts other))).shifts key =
        timed.shifts key := shifts_withShifts_of_ne _ _ _ (Ne.symm same)
    have moved := paced.mono kept (fun works => (works_congr kept Iff.rfl).mpr works)
      fun _ rests => rests
    exact moved.addAfter same _

/-- A key keeps its pace with a single stake. -/
theorem after
    {event : QueueEvent Key}
    (sound : timed.Sound)
    (single : timed.stakes key ≤ 1)
    (mayHappen : timed.MayHappen event)
    (leaves : timed.Leaves key event)
    (paced : Paced count key timed) :
    Paced count key (timed.after event) := by
  cases event with
  | add other => exact paced.add leaves
  | addAfter other nanos => exact paced.addAfter leaves nanos
  | get => exact paced.get sound
  | fail other => exact paced.fail sound single mayHappen
  | done other =>
    refine paced.mono rfl (fun works => ⟨?_, works.2⟩) fun _ rests => ⟨?_, rests.2⟩
    · have differ : key ≠ other := fun same => leaves same.symm works
      simpa [TimedQueue.after, differ] using works.1
    · simpa [TimedQueue.after] using rests.1
  | ring alarm =>
    obtain ⟨isSet, isDue⟩ := mayHappen
    refine paced.mono rfl (fun works => ⟨?_, works.2⟩) fun moment rests => ?_
    · simpa [TimedQueue.after, TimedQueue.add] using works.1
    have erased : RestsUntil { timed with alarms := timed.alarms.erase alarm } key moment :=
      ⟨rests.1, fun other present => rests.2 other (List.mem_of_mem_erase present)⟩
    exact erased.add fun same => Nat.le_trans (rests.2 alarm isSet same.symm) isDue
  | wait moment =>
    exact paced.mono rfl id fun _ rests =>
      ⟨fun marked => Nat.le_trans (rests.1 marked) mayHappen, rests.2⟩
  | forget | shutDown => exact paced.mono rfl id fun _ rests => rests

end Paced

/-- A key with a single stake has shifts that are as far apart as their delays say, as long as all
work on it fails and nobody else adds it. -/
theorem Fails.spaced_of_stakes_le
    (fails : Fails key timed next)
    (sound : timed.Sound)
    (single : timed.stakes key ≤ 1) :
    next.SpacedSince key timed := by
  suffices kept : next.stakes key ≤ 1 ∧ Paced (timed.shifts key).length key next from kept.2.spaced
  induction fails with
  | refl => exact ⟨single, .opening timed key⟩
  | tail before step inductionHypothesis =>
    obtain ⟨few, paced⟩ := inductionHypothesis
    obtain ⟨event, mayHappen, leaves, rfl⟩ := step
    have soundBefore := Leads.sound before sound
    exact ⟨Nat.le_trans (stakes_after_le soundBefore mayHappen leaves) few,
      paced.after soundBefore few mayHappen leaves⟩

end TimedQueue

end VolumeAttacher
