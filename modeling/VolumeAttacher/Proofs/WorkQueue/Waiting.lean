import Mathlib.Algebra.BigOperators.Group.List.Basic
import Mathlib.Algebra.GroupWithZero.Nat
import Mathlib.Data.List.Nodup
import Mathlib.Tactic.SplitIfs
import VolumeAttacher.Proofs.WorkQueue
import VolumeAttacher.WorkQueue.Waiting

/-!
# Who sees to a key

What a change of the queue calls for, where a wake-up goes, and how many keys the workers of a room
see to before they wait again. All of it is said of a room regardless of the order in which its
workers stand, although a wake-up goes to the first one that takes it.
-/

namespace VolumeAttacher

namespace WorkQueue

variable {Key : Type} [DecidableEq Key] {queue : WorkQueue Key}

/-- A worker is to be woken for every key that comes to those that wait. -/
theorem length_waiting_add (queue : WorkQueue Key) (key : Key) :
    (queue.add key).1.waiting.length = queue.waiting.length + (queue.add key).2.toNat := by
  unfold WorkQueue.add
  split_ifs <;> simp

theorem length_waiting_done (queue : WorkQueue Key) (key : Key) :
    (queue.done key).1.waiting.length = queue.waiting.length + (queue.done key).2.toNat := by
  unfold WorkQueue.done
  dsimp only
  split_ifs <;> simp

theorem eq_of_get_nothing (nothing : queue.get.2 = .nothing) :
    queue.closed = false ∧ queue.waiting = [] ∧ queue.get.1 = queue := by
  unfold WorkQueue.get at nothing ⊢
  by_cases isClosed : queue.closed = true
  · simp [isClosed] at nothing
  · cases waiting : queue.waiting with
    | nil => simp [isClosed]
    | cons first rest => simp [isClosed, waiting] at nothing

theorem length_waiting_get (found : queue.get.2 ≠ .nothing) :
    queue.get.1.closed = queue.closed ∧
      (queue.closed = false → queue.waiting.length = queue.get.1.waiting.length + 1) := by
  unfold WorkQueue.get at found ⊢
  by_cases isClosed : queue.closed = true
  · simp [isClosed]
  · cases waiting : queue.waiting with
    | nil => simp [isClosed, waiting] at found
    | cons first rest => simp [isClosed]

end WorkQueue

namespace WaitRoom

variable {Worker Key : Type} {room : WaitRoom Worker Key} {waiter : Waiter Worker}
  {waiters woken : List (Waiter Worker)}

/-- Somebody waits and was not woken. -/
def Parks (waiters : List (Waiter Worker)) : Prop :=
  ∃ waiter ∈ waiters, canStep waiter = false

@[simp] theorem parks_cons :
    Parks (waiter :: waiters) ↔ canStep waiter = false ∨ Parks waiters := by
  simp [Parks]

theorem Parks.of_perm (perm : waiters.Perm woken) (parks : Parks waiters) : Parks woken := by
  obtain ⟨waiter, mem, parked⟩ := parks
  exact ⟨waiter, perm.mem_iff.mp mem, parked⟩

/-- Nobody can go on. -/
def AtRest (room : WaitRoom Worker Key) : Prop :=
  ∀ waiter ∈ room.waiters, canStep waiter = false

instance (room : WaitRoom Worker Key) : Decidable room.AtRest :=
  inferInstanceAs (Decidable (∀ waiter ∈ room.waiters, canStep waiter = false))

theorem isWakeable_of_parked (parked : canStep waiter = false) :
    Waiter.isWakeable waiter = true := by
  obtain ⟨worker, stage, signal⟩ := waiter
  cases stage <;> cases signal <;> simp_all [canStep, Waiter.isWakeable]

/-- A wake-up goes to one worker that would take it. -/
theorem exists_of_wakeFirst (wakes : wakeFirst waiters = some woken) :
    ∃ waiter rest, Waiter.isWakeable waiter = true ∧ waiters.Perm (waiter :: rest) ∧
      woken.Perm ({ waiter with signal := .own } :: rest) := by
  induction waiters generalizing woken with
  | nil => simp [wakeFirst] at wakes
  | cons first others ih =>
    unfold wakeFirst at wakes
    split at wakes
    · next wakeable =>
      cases wakes
      exact ⟨first, others, wakeable, .refl _, .refl _⟩
    · obtain ⟨later, found, rfl⟩ := Option.map_eq_some_iff.mp wakes
      obtain ⟨waiter, rest, wakeable, old, new⟩ := ih found
      exact ⟨waiter, first :: rest, wakeable, (old.cons first).trans (.swap ..),
        (new.cons first).trans (.swap ..)⟩

theorem not_parks_of_wakeFirst (kept : wakeFirst waiters = none) : ¬ Parks waiters := by
  induction waiters with
  | nil => simp [Parks]
  | cons first others ih =>
    unfold wakeFirst at kept
    split at kept
    · simp at kept
    · next deaf =>
      rw [parks_cons]
      rintro (parked | parks)
      · exact deaf (isWakeable_of_parked parked)
      · exact ih (by simpa using kept) parks

theorem not_parks_wakeAll (room : WaitRoom Worker Key) : ¬ Parks room.wakeAll.waiters := by
  rintro ⟨_, mem, parked⟩
  obtain ⟨waiter, -, rfl⟩ := List.mem_map.mp mem
  split at parked
  · simp [canStep] at parked
  · next deaf => exact deaf (isWakeable_of_parked parked)

/-- The names of those that are in a room. -/
def names (waiters : List (Waiter Worker)) : List Worker := waiters.map (·.worker)

theorem names_wakeAll (room : WaitRoom Worker Key) :
    names room.wakeAll.waiters = names room.waiters := by
  simp only [names, wakeAll, List.map_map]
  refine List.map_congr_left fun waiter _ => ?_
  dsimp only [Function.comp]
  split <;> rfl

variable [DecidableEq Worker]

/-! ## Places in a room -/

theorem perm_without
    (distinct : (names room.waiters).Nodup)
    (mem : waiter ∈ room.waiters) :
    room.waiters.Perm (waiter :: (room.without waiter.worker).waiters) := by
  obtain ⟨before, after, place⟩ := List.append_of_mem mem
  rw [names, place, List.map_append, List.map_cons, List.nodup_append, List.nodup_cons] at distinct
  obtain ⟨-, ⟨unseen, -⟩, apart⟩ := distinct
  have earlier : ∀ other ∈ before, other.worker ≠ waiter.worker := fun other present =>
    apart _ (List.mem_map_of_mem present) _ List.mem_cons_self
  have later : ∀ other ∈ after, other.worker ≠ waiter.worker := fun other present same =>
    unseen (same ▸ List.mem_map_of_mem present)
  have rest : (room.without waiter.worker).waiters = before ++ after := by
    rw [without, place, List.filter_append, List.filter_cons_of_neg (by simp),
      List.filter_eq_self.mpr (by simpa using earlier),
      List.filter_eq_self.mpr (by simpa using later)]
  rw [rest, place]
  exact List.perm_middle

theorem ne_of_mem_without
    {worker : Worker}
    (mem : waiter ∈ (room.without worker).waiters) :
    waiter.worker ≠ worker := by
  simpa using (List.mem_filter.mp mem).2

theorem perm_toEnd (room : WaitRoom Worker Key) (waiter : Waiter Worker) :
    (room.toEnd waiter).waiters.Perm (waiter :: (room.without waiter.worker).waiters) :=
  List.perm_append_singleton waiter _

theorem perm_update
    (distinct : (names room.waiters).Nodup)
    (mem : waiter ∈ room.waiters)
    {changed : Waiter Worker}
    (same : changed.worker = waiter.worker) :
    (room.update changed).waiters.Perm (changed :: (room.without waiter.worker).waiters) := by
  have perm := (perm_without distinct mem).map fun other =>
    if other.worker = changed.worker then changed else other
  have kept : ∀ other ∈ (room.without waiter.worker).waiters,
      (if other.worker = changed.worker then changed else other) = other := by
    intro other present
    rw [same, if_neg (ne_of_mem_without present)]
  rw [List.map_cons, if_pos same.symm, List.map_congr_left kept, List.map_id'] at perm
  exact perm

/-! ## Looking at the queue -/

section Looks

variable [DecidableEq Key]

/-- A worker that finds nothing waits, and has changed nothing else. -/
theorem look_of_nothing (nothing : room.queue.get.2 = .nothing) :
    (room.look waiter).1 = room.update { waiter with stage := .waiting } := by
  obtain ⟨-, -, same⟩ := WorkQueue.eq_of_get_nothing nothing
  unfold look
  simp only [nothing, same]

/-- A worker that finds something leaves. -/
theorem look_of_found (found : room.queue.get.2 ≠ .nothing) :
    (room.look waiter).1 = leave { room with queue := room.queue.get.1 } waiter := by
  unfold look
  cases handed : room.queue.get.2 with
  | nothing => exact absurd handed found
  | key value => simp only [handed]
  | closed => simp only [handed]

end Looks

/-! ## What workers see to -/

/-- The wake-ups that a worker got for itself. -/
def ownWakes (waiter : Waiter Worker) : Nat := if waiter.signal = .own then 1 else 0

/-- How many keys a worker sees to before it waits again: one if it has yet to look at the queue,
and one if it was woken and will look again or pass the wake-up on. Those that are leaving have
looked. -/
def cover (leaving : List Worker) (waiter : Waiter Worker) : Nat :=
  match waiter.stage with
  | .registering => 1
  | .looking => if waiter.worker ∈ leaving then ownWakes waiter else ownWakes waiter + 1
  | .waiting => ownWakes waiter

/-- How many keys the workers of a room see to before they wait again. -/
def covered (leaving : List Worker) (waiters : List (Waiter Worker)) : Nat :=
  (waiters.map (cover leaving)).sum

variable {leaving others : List Worker}

@[simp] theorem covered_cons :
    covered leaving (waiter :: waiters) = cover leaving waiter + covered leaving waiters := by
  simp [covered]

theorem covered_of_perm (perm : waiters.Perm woken) :
    covered leaving waiters = covered leaving woken :=
  (perm.map (cover leaving)).sum_nat

theorem covered_congr
    (alike : ∀ waiter ∈ waiters, (waiter.worker ∈ leaving ↔ waiter.worker ∈ others)) :
    covered leaving waiters = covered others waiters := by
  refine congrArg List.sum (List.map_congr_left fun waiter mem => ?_)
  simp only [cover, alike waiter mem]

theorem covered_of_atRest (rest : room.AtRest) : covered leaving room.waiters = 0 := by
  refine List.sum_eq_zero fun keys counted => ?_
  obtain ⟨⟨worker, stage, signal⟩, mem, rfl⟩ := List.mem_map.mp counted
  have parked := rest _ mem
  cases stage <;> cases signal <;> simp_all [canStep, cover, ownWakes]

theorem cover_wakeable (wakeable : Waiter.isWakeable waiter = true) :
    cover leaving { waiter with signal := .own } = cover leaving waiter + 1 := by
  obtain ⟨worker, stage, signal⟩ := waiter
  cases stage <;> simp_all [Waiter.isWakeable, cover, ownWakes]
  split <;> rfl

end WaitRoom

end VolumeAttacher
