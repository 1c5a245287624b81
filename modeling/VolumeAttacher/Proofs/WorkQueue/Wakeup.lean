import Mathlib.Logic.Relation
import VolumeAttacher.Proofs.WorkQueue.Waiting

/-!
# Wake-ups

Workers enter a queue, wait and leave while keys are added and finished and the queue is shut down,
in any order. A worker may take a key that another one was woken for, one wake-up is kept for any
number of keys, and a worker may look for a key in vain. Still nobody waits while there is a key or
after the queue was shut down, because the keys never outnumber the wake-ups to come together with
the workers that have yet to look.
-/

namespace VolumeAttacher

/-- A room in which workers want keys, and the keys that are to be added after a time. -/
structure Hall (Worker Key : Type) where
  room : WaitRoom Worker Key
  delayed : List Key

/-- A hall in which some of what is done has been done only in part. -/
structure BusyHall (Worker Key : Type) extends Hall Worker Key where
  /-- The workers that have looked and are about to leave, but are still registered. -/
  leaving : List Worker
  /-- How many wake-ups are still to come for keys that are already in the queue. -/
  owed : Nat
  /-- How often the queue was shut down and the workers have yet to be woken. -/
  closings : Nat

namespace Hall

variable {Worker Key : Type} [DecidableEq Worker] [DecidableEq Key]

/-- A hall that nobody has entered. -/
def opening (start maximum : Duration) : Hall Worker Key :=
  ⟨.ofQueue (.empty start maximum), []⟩

/-- One step in a hall, where keys are added and finished and the queue is shut down in one go. -/
inductive Step (hall : Hall Worker Key) : Hall Worker Key → Prop
  | enter (worker : Worker) (fresh : worker ∉ WaitRoom.names hall.room.waiters) :
    Step hall { hall with room := hall.room.enter worker }
  /-- A worker that wants a key goes on. -/
  | goOn (waiter : Waiter Worker) (mem : waiter ∈ hall.room.waiters) :
    Step hall { hall with room := (hall.room.step waiter).1 }
  /-- A worker that waits is stopped. -/
  | drop (waiter : Waiter Worker) (mem : waiter ∈ hall.room.waiters)
      (waits : waiter.stage = .waiting) :
    Step hall { hall with room := hall.room.leave waiter }
  | add (key : Key) : Step hall { hall with room := hall.room.add key }
  /-- A key is to be added after a time. -/
  | delay (key : Key) : Step hall { hall with delayed := key :: hall.delayed }
  /-- The time of a delayed key has come. -/
  | ring (key : Key) (due : key ∈ hall.delayed) :
    Step hall { room := hall.room.add key, delayed := hall.delayed.erase key }
  | done (key : Key) : Step hall { hall with room := hall.room.done key }
  | fail (key : Key) :
    Step hall { hall with room := { hall.room with queue := (hall.room.queue.fail key).1 } }
  | forget (key : Key) :
    Step hall { hall with room := { hall.room with queue := hall.room.queue.forget key } }
  | shutDown : Step hall { hall with room := hall.room.shutDown }

/-- The halls that come of one that nobody has entered. -/
def Reachable (start maximum : Duration) (hall : Hall Worker Key) : Prop :=
  Relation.ReflTransGen Step (opening start maximum) hall

end Hall

namespace BusyHall

open WaitRoom

variable {Worker Key : Type}

section Steps

variable [DecidableEq Worker] [DecidableEq Key]

/-- A hall in which everything was done in full. -/
def ofHall (hall : Hall Worker Key) : BusyHall Worker Key := ⟨hall, [], 0, 0⟩

/-- The hall with another queue, the wake-up that the change calls for being still to come. -/
def change (hall : BusyHall Worker Key) (change : WorkQueue Key × Bool) : BusyHall Worker Key :=
  { hall with
      room := { hall.room with queue := change.1 }
      owed := hall.owed + change.2.toNat }

/-- One step in a hall, where others may come between a change of the queue and the wake-up, and
between a worker's last look and its leave. -/
inductive Step (hall : BusyHall Worker Key) : BusyHall Worker Key → Prop
  | enter (worker : Worker) (fresh : worker ∉ names hall.room.waiters)
      (unused : worker ∉ hall.leaving) :
    Step hall { hall with room := hall.room.enter worker }
  | register (waiter : Waiter Worker) (mem : waiter ∈ hall.room.waiters)
      (registers : waiter.stage = .registering) :
    Step hall { hall with room := hall.room.register waiter }
  /-- All workers were woken while this one was about to register. -/
  | overtake (waiter : Waiter Worker) (mem : waiter ∈ hall.room.waiters)
      (registers : waiter.stage = .registering) (closed : hall.room.queue.closed = true) :
    Step hall { hall with
      room := hall.room.update { waiter with stage := .looking, signal := .all } }
  /-- A worker looks and finds a key, or that the queue was shut down. -/
  | find (waiter : Waiter Worker) (mem : waiter ∈ hall.room.waiters)
      (looks : waiter.stage = .looking) (stays : waiter.worker ∉ hall.leaving)
      (found : hall.room.queue.get.2 ≠ .nothing) :
    Step hall { hall with
      room := { hall.room with queue := hall.room.queue.get.1 }
      leaving := waiter.worker :: hall.leaving }
  | depart (waiter : Waiter Worker) (mem : waiter ∈ hall.room.waiters)
      (leaves : waiter.worker ∈ hall.leaving) :
    Step hall { hall with
      room := hall.room.leave waiter
      leaving := hall.leaving.filter (· ≠ waiter.worker) }
  /-- A worker looks and finds nothing. -/
  | wait (waiter : Waiter Worker) (mem : waiter ∈ hall.room.waiters)
      (looks : waiter.stage = .looking) (stays : waiter.worker ∉ hall.leaving)
      (nothing : hall.room.queue.get.2 = .nothing) :
    Step hall { hall with room := hall.room.update { waiter with stage := .waiting } }
  /-- A worker that was woken starts anew. -/
  | resume (waiter : Waiter Worker) (mem : waiter ∈ hall.room.waiters)
      (waits : waiter.stage = .waiting) (woken : waiter.signal ≠ .none) :
    Step hall { hall with
      room := hall.room.update { waiter with stage := .registering, signal := .none } }
  | drop (waiter : Waiter Worker) (mem : waiter ∈ hall.room.waiters)
      (waits : waiter.stage = .waiting) :
    Step hall { hall with room := hall.room.leave waiter }
  | add (key : Key) : Step hall (hall.change (hall.room.queue.add key))
  | delay (key : Key) : Step hall { hall with delayed := key :: hall.delayed }
  | ring (key : Key) (due : key ∈ hall.delayed) :
    Step hall { hall.change (hall.room.queue.add key) with delayed := hall.delayed.erase key }
  | done (key : Key) : Step hall (hall.change (hall.room.queue.done key))
  /-- A wake-up that was still to come. -/
  | notify (count : Nat) (due : hall.owed = count + 1) :
    Step hall { hall with room := hall.room.wakeOne, owed := count }
  | fail (key : Key) :
    Step hall { hall with room := { hall.room with queue := (hall.room.queue.fail key).1 } }
  | forget (key : Key) :
    Step hall { hall with room := { hall.room with queue := hall.room.queue.forget key } }
  | shutDown :
    Step hall { hall with
      room := { hall.room with queue := hall.room.queue.shutDown }
      closings := hall.closings + 1 }
  /-- The workers are woken because the queue was shut down. -/
  | notifyAll (count : Nat) (due : hall.closings = count + 1) :
    Step hall { hall with room := hall.room.wakeAll, closings := count }

/-- The halls that come of one that nobody has entered. -/
def Reachable (start maximum : Duration) (hall : BusyHall Worker Key) : Prop :=
  Relation.ReflTransGen Step (ofHall (.opening start maximum)) hall

end Steps

/-- While somebody waits, every key has a wake-up to come or a worker that sees to it, and after a
shutdown all are yet to be woken. -/
structure Sound [DecidableEq Worker] (hall : BusyHall Worker Key) : Prop where
  distinct : (names hall.room.waiters).Nodup
  looking : ∀ waiter ∈ hall.room.waiters, waiter.worker ∈ hall.leaving → waiter.stage = .looking
  enough : hall.room.queue.closed = false → Parks hall.room.waiters →
    hall.room.queue.waiting.length ≤ hall.owed + covered hall.leaving hall.room.waiters
  told : hall.room.queue.closed = true → Parks hall.room.waiters → 0 < hall.closings

variable {hall next : BusyHall Worker Key} {waiter changed : Waiter Worker}
  {rest : List (Waiter Worker)} [DecidableEq Worker]

namespace Sound

theorem opening [DecidableEq Key] (start maximum : Duration) :
    (ofHall (.opening start maximum) : BusyHall Worker Key).Sound where
  distinct := List.nodup_nil
  looking := nofun
  enough _ parks := by simp [ofHall, Hall.opening, ofQueue, Parks] at parks
  told _ parks := by simp [ofHall, Hall.opening, ofQueue, Parks] at parks

/-- A worker goes on from one stage to the next. Unless there is no key, it sees to as many keys as
before and does not wait. -/
theorem exchange
    (sound : hall.Sound)
    (queue : next.room.queue = hall.room.queue)
    (leaving : next.leaving = hall.leaving)
    (closings : next.closings = hall.closings)
    (old : hall.room.waiters.Perm (waiter :: rest))
    (new : next.room.waiters.Perm (changed :: rest))
    (same : changed.worker = waiter.worker)
    (looking : waiter.worker ∈ hall.leaving → changed.stage = .looking)
    (seen : hall.room.queue.closed = false ∧ hall.room.queue.waiting = [] ∨
      canStep changed = true ∧
        hall.owed + cover hall.leaving waiter ≤ next.owed + cover hall.leaving changed) :
    next.Sound := by
  have parks (goes : canStep changed = true) (parks : Parks next.room.waiters) :
      Parks hall.room.waiters := by
    have parks := parks.of_perm new
    rw [parks_cons, goes] at parks
    exact Parks.of_perm old.symm (parks_cons.mpr (.inr (parks.resolve_left nofun)))
  refine ⟨?_, ?_, ?_, ?_⟩
  · have distinct : (names (waiter :: rest)).Nodup := (old.map _).nodup_iff.mp sound.distinct
    refine (new.map _).nodup_iff.mpr ?_
    simpa [names, same] using distinct
  · intro other mem leaves
    rw [leaving] at leaves
    obtain rfl | mem := List.mem_cons.mp (new.mem_iff.mp mem)
    · exact looking (same ▸ leaves)
    · exact sound.looking other (old.mem_iff.mpr (List.mem_cons_of_mem _ mem)) leaves
  · intro opened parked
    rw [queue] at opened ⊢
    obtain ⟨-, empty⟩ | ⟨goes, grows⟩ := seen
    · simp [empty]
    · have before := sound.enough opened (parks goes parked)
      rw [covered_of_perm old, covered_cons] at before
      rw [leaving, covered_of_perm new, covered_cons]
      omega
  · intro closed parked
    rw [queue] at closed
    rw [closings]
    obtain ⟨opened, -⟩ | ⟨goes, -⟩ := seen
    · simp [closed] at opened
    · exact sound.told closed (parks goes parked)

/-- A worker leaves. A wake-up that it has not used is owed to another one. -/
theorem remove
    (sound : hall.Sound)
    (queue : next.room.queue = hall.room.queue)
    (closings : next.closings = hall.closings)
    (old : hall.room.waiters.Perm (waiter :: next.room.waiters))
    (leaving : ∀ other ∈ next.room.waiters,
      (other.worker ∈ next.leaving ↔ other.worker ∈ hall.leaving))
    (enough : hall.owed + cover hall.leaving waiter ≤ next.owed) :
    next.Sound := by
  have parks (parks : Parks next.room.waiters) : Parks hall.room.waiters :=
    Parks.of_perm old.symm (parks_cons.mpr (.inr parks))
  refine ⟨?_, ?_, ?_, ?_⟩
  · have distinct : (names (waiter :: next.room.waiters)).Nodup :=
      (old.map _).nodup_iff.mp sound.distinct
    exact distinct.of_cons
  · intro other mem leaves
    exact sound.looking other (old.mem_iff.mpr (List.mem_cons_of_mem _ mem))
      ((leaving other mem).mp leaves)
  · intro opened parked
    rw [queue] at opened ⊢
    have before := sound.enough opened (parks parked)
    rw [covered_of_perm old, covered_cons, ← covered_congr leaving] at before
    omega
  · intro closed parked
    rw [queue] at closed
    rw [closings]
    exact sound.told closed (parks parked)

/-- One wake-up that was owed is given. -/
theorem wakeOne
    (sound : hall.Sound)
    {count : Nat}
    (owed : hall.owed = count + 1) :
    Sound { hall with room := hall.room.wakeOne, owed := count } := by
  unfold WaitRoom.wakeOne
  split
  · next woken wakes =>
    obtain ⟨waiter, rest, wakeable, old, new⟩ := exists_of_wakeFirst wakes
    refine sound.exchange rfl rfl rfl old new rfl ?_ (.inr ⟨by simp [canStep], ?_⟩)
    · exact sound.looking waiter (old.mem_iff.mpr List.mem_cons_self)
    · rw [cover_wakeable wakeable, owed]
      dsimp only
      omega
  · next deaf =>
    -- whoever waits would take it, so the wake-up is kept only if nobody waits
    have quiet := not_parks_of_wakeFirst deaf
    exact ⟨sound.distinct, sound.looking, fun _ parks => absurd parks quiet,
      fun _ parks => absurd parks quiet⟩

/-- A worker that sees to no key but for a wake-up leaves. -/
theorem leave
    (sound : hall.Sound)
    (mem : waiter ∈ hall.room.waiters)
    (seen : cover hall.leaving waiter = ownWakes waiter)
    {leaving : List Worker}
    (kept : ∀ other ≠ waiter.worker, (other ∈ leaving ↔ other ∈ hall.leaving)) :
    Sound { hall with room := hall.room.leave waiter, leaving } := by
  -- the wake-up that the worker has counts as owed once the worker has gone
  have removed : Sound { hall with
      room := hall.room.without waiter.worker
      leaving
      owed := hall.owed + ownWakes waiter } := by
    refine sound.remove rfl rfl (perm_without sound.distinct mem) ?_
      (Nat.add_le_add_left (Nat.le_of_eq seen) hall.owed)
    exact fun other present => kept other.worker (ne_of_mem_without present)
  unfold WaitRoom.leave
  unfold ownWakes at removed
  by_cases own : waiter.signal = .own
  · rw [if_pos own] at removed ⊢
    exact removed.wakeOne rfl
  · rw [if_neg own] at removed ⊢
    exact removed

/-- Whoever has not looked is not leaving. -/
theorem not_leaving
    (sound : hall.Sound)
    (mem : waiter ∈ hall.room.waiters)
    (unseen : waiter.stage ≠ .looking) :
    waiter.worker ∉ hall.leaving :=
  fun leaves => unseen (sound.looking waiter mem leaves)

/-- A worker that is not leaving goes on at its place. -/
theorem update
    (sound : hall.Sound)
    (mem : waiter ∈ hall.room.waiters)
    (same : changed.worker = waiter.worker)
    (stays : waiter.worker ∉ hall.leaving)
    (seen : hall.room.queue.closed = false ∧ hall.room.queue.waiting = [] ∨
      canStep changed = true ∧ cover hall.leaving waiter ≤ cover hall.leaving changed) :
    Sound { hall with room := hall.room.update changed } :=
  sound.exchange rfl rfl rfl (perm_without sound.distinct mem)
    (perm_update sound.distinct mem same) same (fun leaves => absurd leaves stays)
    (seen.imp_right fun goes => ⟨goes.1, Nat.add_le_add_left goes.2 hall.owed⟩)

theorem enter
    (sound : hall.Sound)
    {worker : Worker}
    (fresh : worker ∉ names hall.room.waiters)
    (unused : worker ∉ hall.leaving) :
    Sound { hall with room := hall.room.enter worker } := by
  have perm : (hall.room.enter worker).waiters.Perm
      (⟨worker, .registering, .none⟩ :: hall.room.waiters) :=
    List.perm_append_singleton _ _
  have parks (parks : Parks (hall.room.enter worker).waiters) : Parks hall.room.waiters :=
    (parks_cons.mp (parks.of_perm perm)).resolve_left nofun
  refine ⟨?_, ?_, ?_, ?_⟩
  · exact (perm.map _).nodup_iff.mpr (List.nodup_cons.mpr ⟨fresh, sound.distinct⟩)
  · intro other mem leaves
    obtain rfl | mem := List.mem_cons.mp (perm.mem_iff.mp mem)
    · exact absurd leaves unused
    · exact sound.looking other mem leaves
  · intro opened parked
    have before := sound.enough opened (parks parked)
    rw [covered_of_perm perm, covered_cons]
    exact Nat.le_trans before (Nat.add_le_add_left (Nat.le_add_left ..) hall.owed)
  · exact fun closed parked => sound.told closed (parks parked)

theorem register
    (sound : hall.Sound)
    (mem : waiter ∈ hall.room.waiters)
    (registers : waiter.stage = .registering) :
    Sound { hall with room := hall.room.register waiter } := by
  have stays := sound.not_leaving mem (by simp [registers])
  refine sound.exchange rfl rfl rfl (perm_without sound.distinct mem) (perm_toEnd _ _) rfl
    (fun _ => rfl) (.inr ⟨by simp [canStep], ?_⟩)
  simp [cover, registers, stays]

/-- A worker that has looked sees to one key less. -/
theorem find
    [DecidableEq Key]
    (sound : hall.Sound)
    (mem : waiter ∈ hall.room.waiters)
    (looks : waiter.stage = .looking)
    (stays : waiter.worker ∉ hall.leaving)
    (found : hall.room.queue.get.2 ≠ .nothing) :
    Sound { hall with
      room := { hall.room with queue := hall.room.queue.get.1 }
      leaving := waiter.worker :: hall.leaving } := by
  obtain ⟨closed, waiting⟩ := WorkQueue.length_waiting_get found
  have perm := perm_without sound.distinct mem
  refine ⟨sound.distinct, ?_, ?_, ?_⟩
  · intro other present leaves
    obtain same | leaves := List.mem_cons.mp leaves
    · rw [List.inj_on_of_nodup_map sound.distinct present mem same]
      exact looks
    · exact sound.looking other present leaves
  · intro opened parked
    rw [closed] at opened
    -- the queue has one key less, and the worker one look less
    have before := sound.enough opened parked
    have alike : ∀ other ∈ (hall.room.without waiter.worker).waiters,
        (other.worker ∈ waiter.worker :: hall.leaving ↔ other.worker ∈ hall.leaving) := by
      intro other present
      simp [ne_of_mem_without present]
    rw [covered_of_perm perm, covered_cons, waiting opened] at before
    rw [covered_of_perm perm, covered_cons, covered_congr alike]
    simp only [cover, looks, stays, if_false, List.mem_cons, true_or, if_true] at before ⊢
    omega
  · intro isClosed
    exact sound.told (closed ▸ isClosed)

/-- A key that comes to those that wait comes with a wake-up. -/
theorem change
    (sound : hall.Sound)
    {change : WorkQueue Key × Bool}
    (closed : change.1.closed = hall.room.queue.closed)
    (length : change.1.waiting.length = hall.room.queue.waiting.length + change.2.toNat) :
    (hall.change change).Sound where
  distinct := sound.distinct
  looking := sound.looking
  enough opened parked := by
    have before := sound.enough (closed ▸ opened) parked
    simp only [BusyHall.change]
    omega
  told isClosed := sound.told (closed ▸ isClosed)

variable [DecidableEq Key]

theorem add (sound : hall.Sound) (key : Key) : (hall.change (hall.room.queue.add key)).Sound :=
  sound.change (WorkQueue.closed_add _ key) (WorkQueue.length_waiting_add _ key)

theorem step (sound : hall.Sound) (step : Step hall next) : next.Sound := by
  cases step with
  | enter worker fresh unused => exact sound.enter fresh unused
  | register waiter mem registers => exact sound.register mem registers
  | overtake waiter mem registers closed =>
    have stays := sound.not_leaving mem (by simp [registers])
    refine sound.update mem rfl stays (.inr ⟨by simp [canStep], ?_⟩)
    simp [cover, registers, stays]
  | find waiter mem looks stays found => exact sound.find mem looks stays found
  | depart waiter mem leaves =>
    refine sound.leave mem ?_ ?_
    · simp [cover, sound.looking waiter mem leaves, leaves]
    · intro other differs
      simp [differs]
  | wait waiter mem looks stays nothing =>
    obtain ⟨opened, empty, -⟩ := WorkQueue.eq_of_get_nothing nothing
    exact sound.update mem rfl stays (.inl ⟨opened, empty⟩)
  | resume waiter mem waits woken =>
    have stays := sound.not_leaving mem (by simp [waits])
    refine sound.update mem rfl stays (.inr ⟨by simp [canStep], ?_⟩)
    simp only [cover, waits, ownWakes]
    split <;> simp
  | drop waiter mem waits =>
    refine sound.leave mem ?_ fun _ _ => Iff.rfl
    simp only [cover, waits]
  | add key => exact sound.add key
  | delay key => exact { sound with }
  | ring key due => exact { sound.add key with }
  | done key =>
    exact sound.change (WorkQueue.closed_done _ key) (WorkQueue.length_waiting_done _ key)
  | notify count due => exact sound.wakeOne due
  | fail key => exact { sound with }
  | forget key => exact { sound with }
  | shutDown =>
    refine ⟨sound.distinct, sound.looking, ?_, fun _ _ => Nat.succ_pos _⟩
    intro opened
    simp [WorkQueue.shutDown] at opened
  | notifyAll count due =>
    have quiet := not_parks_wakeAll hall.room
    refine ⟨?_, ?_, fun _ parks => absurd parks quiet, fun _ parks => absurd parks quiet⟩
    · rw [names_wakeAll]
      exact sound.distinct
    · intro other mem leaves
      obtain ⟨waiter, present, rfl⟩ := List.mem_map.mp mem
      have looks := sound.looking waiter present
      by_cases wakeable : Waiter.isWakeable waiter = true
      · rw [if_pos wakeable] at leaves ⊢
        exact looks leaves
      · rw [if_neg wakeable] at leaves ⊢
        exact looks leaves

end Sound

variable {start maximum : Duration}

theorem Reachable.sound
    [DecidableEq Key]
    (reachable : Reachable start maximum hall) :
    hall.Sound := by
  induction reachable with
  | refl => exact .opening start maximum
  | tail _ step ih => exact ih.step step

/-- Where nobody can go on, only wake-ups that are still to come see to keys. -/
theorem Sound.attended
    (sound : hall.Sound)
    (rest : hall.room.AtRest)
    (mem : waiter ∈ hall.room.waiters) :
    (hall.room.queue.closed = true → 0 < hall.closings) ∧
      (hall.room.queue.closed = false → hall.room.queue.waiting.length ≤ hall.owed) := by
  have parks : Parks hall.room.waiters := ⟨waiter, mem, rest waiter mem⟩
  refine ⟨fun closed => sound.told closed parks, fun opened => ?_⟩
  have enough := sound.enough opened parks
  rw [covered_of_atRest rest] at enough
  exact enough

/-! ## Steps in one go -/

variable [DecidableEq Key]

/-- The wake-up that a change calls for may come right after it. -/
theorem runs_afterChange (hall : Hall Worker Key) (change : WorkQueue Key × Bool) :
    Relation.ReflTransGen Step ((ofHall hall).change change)
      (ofHall { hall with room := hall.room.afterChange change }) := by
  obtain ⟨queue, wakes⟩ := change
  cases wakes with
  | false => exact .refl
  | true => exact .single (.notify 0 rfl)

/-- A worker that has looked may leave right away. -/
theorem runs_find
    (hall : Hall Worker Key)
    (mem : waiter ∈ hall.room.waiters)
    (looks : waiter.stage = .looking)
    (found : hall.room.queue.get.2 ≠ .nothing) :
    Relation.ReflTransGen Step (ofHall hall)
      (ofHall { hall with
        room := WaitRoom.leave { hall.room with queue := hall.room.queue.get.1 } waiter }) := by
  have departs : Step
      ⟨⟨{ hall.room with queue := hall.room.queue.get.1 }, hall.delayed⟩, [waiter.worker], 0, 0⟩ _ :=
    .depart waiter mem List.mem_cons_self
  rw [List.filter_cons_of_neg (by simp)] at departs
  exact .tail (.single (.find waiter mem looks List.not_mem_nil found)) departs

/-- What a worker does next, with nobody coming in between. -/
theorem runs_goOn
    (hall : Hall Worker Key)
    (mem : waiter ∈ hall.room.waiters) :
    Relation.ReflTransGen Step (ofHall hall)
      (ofHall { hall with room := (hall.room.step waiter).1 }) := by
  unfold WaitRoom.step
  cases stage : waiter.stage with
  | registering => exact .single (.register waiter mem stage)
  | looking =>
    dsimp only
    by_cases nothing : hall.room.queue.get.2 = .nothing
    · rw [look_of_nothing nothing]
      exact .single (.wait waiter mem stage List.not_mem_nil nothing)
    · rw [look_of_found nothing]
      exact runs_find hall mem stage nothing
  | waiting =>
    dsimp only
    by_cases woken : waiter.signal = .none
    · rw [if_pos woken]
    · rw [if_neg woken]
      exact .single (.resume waiter mem stage woken)

/-- What is done in one go may be done in parts. -/
theorem runs_of_step {hall next : Hall Worker Key} (step : Hall.Step hall next) :
    Relation.ReflTransGen Step (ofHall hall) (ofHall next) := by
  cases step with
  | enter worker fresh => exact .single (.enter worker fresh List.not_mem_nil)
  | goOn waiter mem => exact runs_goOn hall mem
  | drop waiter mem waits => exact .single (.drop waiter mem waits)
  | add key => exact .head (.add key) (runs_afterChange hall _)
  | delay key => exact .single (.delay key)
  | ring key due =>
    exact .head (.ring key due)
      (runs_afterChange { hall with delayed := hall.delayed.erase key } _)
  | done key => exact .head (.done key) (runs_afterChange hall _)
  | fail key => exact .single (.fail key)
  | forget key => exact .single (.forget key)
  | shutDown => exact .tail (.single .shutDown) (.notifyAll 0 rfl)

/-- Whatever comes of steps in one go also comes of steps between which others come. -/
theorem reachable_ofHall {hall : Hall Worker Key} (reachable : hall.Reachable start maximum) :
    (ofHall hall).Reachable start maximum := by
  induction reachable with
  | refl => exact .refl
  | tail _ step ih => exact ih.trans (runs_of_step step)

end BusyHall

namespace WaitRoom

section

variable {Worker Key : Type} [DecidableEq Worker] [DecidableEq Key]

/-- Where no worker can go on, one waits only if there is no key and the queue was not shut down.
This holds as well if others come between the parts of what is done, except that there may be keys
as long as wake-ups are still to come for all of them, and that the queue may have been shut down as
long as the workers have yet to be woken for it. -/
theorem nobody_waits_in_vain (start maximum : Duration) :
    (∀ hall : Hall Worker Key, hall.Reachable start maximum → hall.room.AtRest →
      ∀ waiter ∈ hall.room.waiters,
        hall.room.queue.waiting = [] ∧ hall.room.queue.closed = false) ∧
    (∀ hall : BusyHall Worker Key, hall.Reachable start maximum → hall.room.AtRest →
      ∀ waiter ∈ hall.room.waiters,
        (hall.room.queue.closed = true → 0 < hall.closings) ∧
        (hall.room.queue.closed = false → hall.room.queue.waiting.length ≤ hall.owed)) := by
  refine ⟨?_, fun hall reachable rest waiter mem => reachable.sound.attended rest mem⟩
  intro hall reachable rest waiter mem
  have sound := (BusyHall.reachable_ofHall reachable).sound
  obtain ⟨told, enough⟩ := sound.attended rest mem
  have opened : hall.room.queue.closed = false :=
    Bool.eq_false_iff.mpr fun closed => Nat.lt_irrefl 0 (told closed)
  exact ⟨List.eq_nil_of_length_eq_zero (Nat.le_zero.mp (enough opened)), opened⟩

end

/-- A worker waits. -/
def idle : Hall Nat String :=
  let entered := (Hall.opening (.ofSeconds 1) (.ofSeconds 8) : Hall Nat String).room.enter 0
  let registered := (entered.step ⟨0, .registering, .none⟩).1
  ⟨(registered.step ⟨0, .looking, .none⟩).1, []⟩

theorem reachable_idle : idle.Reachable (.ofSeconds 1) (.ofSeconds 8) :=
  .tail (.tail (.tail .refl (.enter 0 (by decide)))
    (.goOn ⟨0, .registering, .none⟩ (by decide))) (.goOn ⟨0, .looking, .none⟩ (by decide))

/-- The worker is woken for a key that another one takes, and waits again. -/
def overtaken : Hall Nat String :=
  let entered := (idle.room.add "va-1").enter 1
  let registered := (entered.step ⟨1, .registering, .none⟩).1
  let taken := (registered.step ⟨1, .looking, .none⟩).1
  let resumed := (taken.step ⟨0, .waiting, .own⟩).1
  let again := (resumed.step ⟨0, .registering, .none⟩).1
  ⟨(again.step ⟨0, .looking, .none⟩).1, []⟩

theorem reachable_overtaken : overtaken.Reachable (.ofSeconds 1) (.ofSeconds 8) := by
  have taken := ((reachable_idle.tail (.add "va-1")).tail (.enter 1 (by decide))).tail
    (.goOn ⟨1, .registering, .none⟩ (by decide))
  have resumed := (taken.tail (.goOn ⟨1, .looking, .none⟩ (by decide))).tail
    (.goOn ⟨0, .waiting, .own⟩ (by decide))
  exact (resumed.tail (.goOn ⟨0, .registering, .none⟩ (by decide))).tail
    (.goOn ⟨0, .looking, .none⟩ (by decide))

/-- A key has come to the queue, and the worker has yet to be woken. -/
def surprised : BusyHall Nat String :=
  (BusyHall.ofHall overtaken).change (overtaken.room.queue.add "va-2")

theorem reachable_surprised : surprised.Reachable (.ofSeconds 1) (.ofSeconds 8) :=
  (BusyHall.reachable_ofHall reachable_overtaken).tail (.add "va-2")

theorem overtaken_worker_waits_for_nothing :
    overtaken.Reachable (.ofSeconds 1) (.ofSeconds 8) ∧ overtaken.room.AtRest ∧
      ⟨0, .waiting, .none⟩ ∈ overtaken.room.waiters ∧
      (overtaken.room.queue.waiting = [] ∧ overtaken.room.queue.closed = false) ∧
      surprised.Reachable (.ofSeconds 1) (.ofSeconds 8) ∧ surprised.room.AtRest ∧
      ⟨0, .waiting, .none⟩ ∈ surprised.room.waiters ∧
      surprised.room.queue.waiting = ["va-2"] ∧
      (surprised.room.queue.closed = true → 0 < surprised.closings) ∧
      (surprised.room.queue.closed = false →
        surprised.room.queue.waiting.length ≤ surprised.owed) := by
  have quiet : overtaken.room.AtRest := by decide
  have still : surprised.room.AtRest := by decide
  have mem : ⟨0, .waiting, .none⟩ ∈ overtaken.room.waiters := by decide
  have present : ⟨0, .waiting, .none⟩ ∈ surprised.room.waiters := by decide
  obtain ⟨inOneGo, inParts⟩ :=
    @nobody_waits_in_vain Nat String _ _ (.ofSeconds 1) (.ofSeconds 8)
  exact ⟨reachable_overtaken, quiet, mem, inOneGo _ reachable_overtaken quiet _ mem,
    reachable_surprised, still, present, rfl, inParts _ reachable_surprised still _ present⟩

end WaitRoom

end VolumeAttacher
