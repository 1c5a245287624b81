import Mathlib.Data.List.Basic
import Mathlib.Logic.Relation
import VolumeAttacher.Proofs.WorkQueue

/-!
# Workshops

A queue with any number of workers. Keys are added, at once or after a time; workers get keys, and
are done with every key that they got once; the queue may be closed at any time. Whatever the order
of all this, a key is with one worker at a time, and a closed queue hands out nothing.
-/

namespace VolumeAttacher

/-- Something that happened to a queue. -/
inductive Deed (Worker Key : Type) where
  | added (key : Key)
  /-- A worker got a key. -/
  | handed (worker : Worker) (key : Key)
  /-- A worker was done with a key. -/
  | finished (worker : Worker) (key : Key)
  | closed
  deriving DecidableEq

namespace Deed

variable {Worker Key : Type} {deed : Deed Worker Key} {deeds : List (Deed Worker Key)}
  {held next : List (Worker × Key)}

/-- A history that ends with a deed is split by that deed, or by an earlier one. -/
theorem concat_eq_append_cons
    {other : Deed Worker Key}
    {before after : List (Deed Worker Key)}
    (split : deeds ++ [deed] = before ++ other :: after) :
    before = deeds ∧ other = deed ∧ after = [] ∨
      ∃ rest, after = rest ++ [deed] ∧ deeds = before ++ other :: rest := by
  rcases List.eq_nil_or_concat' after with rfl | ⟨rest, last, rfl⟩
  · left
    obtain ⟨same, lasts⟩ := List.append_inj' split rfl
    exact ⟨same.symm, (List.singleton_inj.mp lasts).symm, rfl⟩
  · right
    rw [← List.cons_append, ← List.append_assoc] at split
    obtain ⟨same, lasts⟩ := List.append_inj' split rfl
    rw [List.singleton_inj.mp lasts]
    exact ⟨rest, rfl, same⟩

/-- Whoever got a key was done with it since, or has it. -/
def Tracked (deeds : List (Deed Worker Key)) (held : List (Worker × Key)) : Prop :=
  ∀ before worker key after, deeds = before ++ .handed worker key :: after →
    .finished worker key ∈ after ∨ (worker, key) ∈ held

/-- Whoever got a key was done with it before it was handed out again. -/
def Alternates (deeds : List (Deed Worker Key)) : Prop :=
  ∀ before first key between second after,
    deeds = before ++ .handed first key :: between ++ .handed second key :: after →
      .finished first key ∈ between

/-- Nothing was handed out after the queue was closed. -/
def Rests (deeds : List (Deed Worker Key)) : Prop :=
  ∀ before after, deeds = before ++ .closed :: after → ∀ worker key, .handed worker key ∉ after

theorem Tracked.concat
    (tracked : Tracked deeds held)
    (handed : ∀ worker key, deed = .handed worker key → (worker, key) ∈ next)
    (kept : ∀ worker key, (worker, key) ∈ held →
      deed = .finished worker key ∨ (worker, key) ∈ next) :
    Tracked (deeds ++ [deed]) next := by
  intro before worker key after split
  obtain ⟨-, last, -⟩ | ⟨rest, rfl, earlier⟩ := concat_eq_append_cons split
  · exact .inr (handed worker key last.symm)
  · rw [List.mem_append, List.mem_singleton]
    obtain finished | has := tracked before worker key rest earlier
    · exact .inl (.inl finished)
    · obtain finishes | keeps := kept worker key has
      · exact .inl (.inr finishes.symm)
      · exact .inr keeps

/-- A key may be handed out again once nobody has it. -/
theorem Alternates.concat
    (alternates : Alternates deeds)
    (tracked : Tracked deeds held)
    (free : ∀ worker key, deed = .handed worker key → ∀ other, (other, key) ∉ held) :
    Alternates (deeds ++ [deed]) := by
  intro before first key between second after split
  obtain ⟨rfl, last, -⟩ | ⟨rest, -, earlier⟩ := concat_eq_append_cons split
  · exact (tracked before first key between rfl).resolve_right (free second key last.symm first)
  · exact alternates before first key between second rest earlier

theorem Rests.concat
    (rests : Rests deeds)
    (quiet : .closed ∈ deeds → ∀ worker key, deed ≠ .handed worker key) :
    Rests (deeds ++ [deed]) := by
  intro before after split worker key
  obtain ⟨-, -, rfl⟩ | ⟨rest, rfl, earlier⟩ := concat_eq_append_cons split
  · exact List.not_mem_nil
  · rw [List.mem_append, List.mem_singleton]
    have closed : .closed ∈ deeds := earlier ▸ List.mem_append_right before List.mem_cons_self
    exact not_or_intro (rests before rest earlier worker key)
      fun same => quiet closed worker key same.symm

end Deed

/-- A queue, and what its workers do with it. -/
structure Workshop (Worker Key : Type) where
  queue : WorkQueue Key
  /-- Which worker has which key. -/
  held : List (Worker × Key)
  /-- The keys that are to be added after a time. -/
  delayed : List Key
  /-- The keys in the order in which they entered the queue. -/
  entered : List Key
  /-- What happened. -/
  deeds : List (Deed Worker Key)

namespace Workshop

variable {Worker Key : Type}

section Operations

variable [DecidableEq Worker] [DecidableEq Key]

/-- A queue that nothing happened to. -/
def opening (start maximum : Duration) : Workshop Worker Key :=
  ⟨.empty start maximum, [], [], [], []⟩

/-- The workshop after a deed: the keys at the end of the queue that were not there before
entered it. -/
def after (workshop : Workshop Worker Key) (queue : WorkQueue Key) (deed : Deed Worker Key) :
    Workshop Worker Key :=
  { workshop with
      queue
      entered := workshop.entered ++ queue.waiting.drop workshop.queue.waiting.length
      deeds := workshop.deeds ++ [deed] }

/-- A key is added. -/
def add (workshop : Workshop Worker Key) (key : Key) : Workshop Worker Key :=
  workshop.after (workshop.queue.add key).1 (.added key)

/-- A key is added after a time in nanoseconds, at once if that is zero. -/
def addAfter (workshop : Workshop Worker Key) (key : Key) (nanos : Nat) : Workshop Worker Key :=
  if nanos = 0 then workshop.add key
  else { workshop with delayed := key :: workshop.delayed }

/-- A key is added after its next interval. -/
def retry (workshop : Workshop Worker Key) (key : Key) : Workshop Worker Key :=
  addAfter { workshop with queue := (workshop.queue.fail key).1 } key
    (workshop.queue.fail key).2

/-- The time of a delayed key has come. -/
def ring (workshop : Workshop Worker Key) (key : Key) : Workshop Worker Key :=
  add { workshop with delayed := workshop.delayed.erase key } key

/-- A worker asks for a key. -/
def get (workshop : Workshop Worker Key) (worker : Worker) : Workshop Worker Key :=
  match workshop.queue.get with
  | (queue, .key key) =>
    { workshop.after queue (.handed worker key) with held := (worker, key) :: workshop.held }
  | (queue, _) => { workshop with queue }

/-- A worker is done with a key. -/
def done (workshop : Workshop Worker Key) (worker : Worker) (key : Key) : Workshop Worker Key :=
  { workshop.after (workshop.queue.done key).1 (.finished worker key) with
      held := workshop.held.erase (worker, key) }

/-- The failures of a key are forgotten. -/
def forget (workshop : Workshop Worker Key) (key : Key) : Workshop Worker Key :=
  { workshop with queue := workshop.queue.forget key }

/-- The queue is closed. -/
def shutDown (workshop : Workshop Worker Key) : Workshop Worker Key :=
  workshop.after workshop.queue.shutDown .closed

/-- One step of a workshop. A worker is done only with a key that it has. -/
inductive Step (workshop : Workshop Worker Key) : Workshop Worker Key → Prop
  | add (key : Key) : Step workshop (workshop.add key)
  | addAfter (key : Key) (nanos : Nat) : Step workshop (workshop.addAfter key nanos)
  | retry (key : Key) : Step workshop (workshop.retry key)
  | ring (key : Key) (due : key ∈ workshop.delayed) : Step workshop (workshop.ring key)
  | get (worker : Worker) : Step workshop (workshop.get worker)
  | done (worker : Worker) (key : Key) (has : (worker, key) ∈ workshop.held) :
    Step workshop (workshop.done worker key)
  | forget (key : Key) : Step workshop (workshop.forget key)
  | shutDown : Step workshop workshop.shutDown

/-- The workshops that come of a queue that nothing happened to. -/
def Reachable (start maximum : Duration) (workshop : Workshop Worker Key) : Prop :=
  Relation.ReflTransGen Step (opening start maximum) workshop

end Operations

/-- The queue is sound, what it counts as being worked on is what workers have, and the history
accounts for it. -/
structure Sound (workshop : Workshop Worker Key) : Prop where
  queue : workshop.queue.Sound
  taken : ∀ key, key ∈ workshop.queue.processing ↔ ∃ worker, (worker, key) ∈ workshop.held
  single : (workshop.held.map Prod.snd).Nodup
  tracked : Deed.Tracked workshop.deeds workshop.held
  alternates : Deed.Alternates workshop.deeds
  closed : .closed ∈ workshop.deeds → workshop.queue.closed = true
  rests : Deed.Rests workshop.deeds

variable {workshop : Workshop Worker Key} {worker : Worker} {key : Key}

/-- A worker that asks for a key gets the first one that waits, or nothing happens. -/
theorem get_cases [DecidableEq Key] (workshop : Workshop Worker Key) (worker : Worker) :
    (∃ queue key, workshop.queue.get = (queue, .key key) ∧ workshop.get worker =
      { workshop.after queue (.handed worker key) with
          held := (worker, key) :: workshop.held }) ∨
      workshop.get worker = workshop := by
  unfold get WorkQueue.get
  by_cases closed : workshop.queue.closed = true
  · simp [closed]
  · cases waiting : workshop.queue.waiting with
    | nil => simp [closed]
    | cons first rest => simp [closed]

namespace Sound

theorem opening (start maximum : Duration) :
    (Workshop.opening start maximum : Workshop Worker Key).Sound where
  queue := .empty start maximum
  taken key := by simp [Workshop.opening, WorkQueue.empty]
  single := List.nodup_nil
  tracked before worker key after split := by simp [Workshop.opening] at split
  alternates before first key between second after split := by simp [Workshop.opening] at split
  closed isClosed := by simp [Workshop.opening] at isClosed
  rests before after split := by simp [Workshop.opening] at split

theorem remember
    (sound : workshop.Sound)
    (failures : List (Key × Backoff)) :
    Sound { workshop with queue := { workshop.queue with failures } } :=
  { sound with queue := sound.queue.remember failures }

theorem delay (sound : workshop.Sound) (delayed : List Key) : Sound { workshop with delayed } :=
  { sound with }

theorem shutDown (sound : workshop.Sound) : workshop.shutDown.Sound where
  queue := sound.queue.shutDown
  taken := sound.taken
  single := sound.single
  tracked := sound.tracked.concat nofun fun _ _ has => .inr has
  alternates := sound.alternates.concat sound.tracked nofun
  closed _ := rfl
  rests := sound.rests.concat nofun

variable [DecidableEq Key]

theorem add (sound : workshop.Sound) (key : Key) : (workshop.add key).Sound where
  queue := sound.queue.add key
  taken other := by
    refine Iff.trans (iff_of_eq ?_) (sound.taken other)
    exact congrArg (other ∈ ·) (WorkQueue.processing_add workshop.queue key)
  single := sound.single
  tracked := sound.tracked.concat nofun fun _ _ has => .inr has
  alternates := sound.alternates.concat sound.tracked nofun
  closed isClosed := by
    refine (WorkQueue.closed_add workshop.queue key).trans (sound.closed ?_)
    simpa [Workshop.add, after] using isClosed
  rests := sound.rests.concat nofun

theorem addAfter (sound : workshop.Sound) (key : Key) (nanos : Nat) :
    (workshop.addAfter key nanos).Sound := by
  unfold Workshop.addAfter
  split
  · exact sound.add key
  · exact sound.delay _

theorem get (sound : workshop.Sound) (worker : Worker) : (workshop.get worker).Sound := by
  obtain ⟨queue, key, handed, shape⟩ | same := workshop.get_cases worker
  · obtain ⟨opened, rest, waiting, next⟩ := WorkQueue.eq_of_get handed
    have waits : key ∈ workshop.queue.waiting := by simp [waiting]
    have free (other : Worker) : (other, key) ∉ workshop.held := fun has =>
      sound.queue.free key waits ((sound.taken key).mpr ⟨other, has⟩)
    rw [shape]
    refine ⟨sound.queue.get handed, ?_, ?_, ?_, ?_, ?_, ?_⟩
    · intro other
      rw [after, next]
      by_cases same : other = key
      · simp [same]
      · simp [same, sound.taken other]
    · rw [List.map_cons, List.nodup_cons]
      refine ⟨?_, sound.single⟩
      rintro present
      obtain ⟨⟨other, _⟩, has, rfl⟩ := List.mem_map.mp present
      exact free other has
    · refine sound.tracked.concat ?_ fun _ _ has => .inr (List.mem_cons_of_mem _ has)
      rintro _ _ ⟨⟩
      exact List.mem_cons_self
    · refine sound.alternates.concat sound.tracked ?_
      rintro _ _ ⟨⟩
      exact free
    · intro isClosed
      have isClosed := sound.closed (by simpa [after] using isClosed)
      simp [isClosed] at opened
    · refine sound.rests.concat ?_
      intro isClosed
      simp [sound.closed isClosed] at opened
  · rw [same]
    exact sound

variable [DecidableEq Worker]

theorem done (sound : workshop.Sound) (has : (worker, key) ∈ workshop.held) :
    (workshop.done worker key).Sound := by
  have taken : key ∈ workshop.queue.processing := (sound.taken key).mpr ⟨worker, has⟩
  have distinct : workshop.held.Nodup := sound.single.of_map
  -- a key that somebody has is with one worker
  have alone (other : Worker) : (other, key) ∉ workshop.held.erase (worker, key) := by
    intro still
    have same := List.inj_on_of_nodup_map sound.single (List.mem_of_mem_erase still) has rfl
    rw [same] at still
    exact distinct.not_mem_erase still
  refine ⟨sound.queue.done taken, ?_, sound.single.sublist (List.erase_sublist.map _), ?_,
    sound.alternates.concat sound.tracked nofun, ?_, sound.rests.concat nofun⟩
  · intro other
    have processing : (workshop.done worker key).queue.processing =
        workshop.queue.processing.filter (· ≠ key) := WorkQueue.processing_done _ _
    rw [processing]
    by_cases same : other = key
    · simp [same, Workshop.done, after, alone]
    · have kept (one : Worker) : (one, other) ∈ workshop.held.erase (worker, key) ↔
          (one, other) ∈ workshop.held :=
        List.mem_erase_of_ne fun equal => same (congrArg Prod.snd equal)
      simp [same, Workshop.done, after, kept, sound.taken other]
  · refine sound.tracked.concat nofun ?_
    intro one other present
    by_cases same : (one, other) = (worker, key)
    · cases same
      exact .inl rfl
    · exact .inr ((List.mem_erase_of_ne same).mpr present)
  · intro isClosed
    refine (WorkQueue.closed_done workshop.queue key).trans (sound.closed ?_)
    simpa [Workshop.done, after] using isClosed

theorem step {next : Workshop Worker Key} (sound : workshop.Sound) (step : Step workshop next) :
    next.Sound := by
  cases step with
  | add key => exact sound.add key
  | addAfter key nanos => exact sound.addAfter key nanos
  | retry key => exact (sound.remember _).addAfter key _
  | ring key due => exact (sound.delay _).add key
  | get worker => exact sound.get worker
  | done worker key has => exact sound.done has
  | forget key => exact sound.remember _
  | shutDown => exact sound.shutDown

end Sound

variable [DecidableEq Worker] [DecidableEq Key] {start maximum : Duration}

theorem Reachable.sound (reachable : Reachable start maximum workshop) : workshop.Sound := by
  induction reachable with
  | refl => exact .opening start maximum
  | tail _ step ih => exact ih.step step

/-- No key waits twice, the keys that wait in an open queue are those that are to be worked on and
that nobody works on, no key is handed out while a worker has it, and none after the queue was
closed. -/
theorem Reachable.waiting_and_handed_once
    (reachable : Reachable start maximum workshop) :
    workshop.queue.waiting.Nodup ∧
      (∀ key ∈ workshop.queue.waiting,
        key ∈ workshop.queue.dirty ∧ key ∉ workshop.queue.processing) ∧
      (workshop.queue.closed = false → ∀ key, key ∈ workshop.queue.waiting ↔
        key ∈ workshop.queue.dirty ∧ key ∉ workshop.queue.processing) ∧
      Deed.Alternates workshop.deeds ∧ Deed.Rests workshop.deeds := by
  have sound := reachable.sound
  have waits (key : Key) (isWaiting : key ∈ workshop.queue.waiting) :
      key ∈ workshop.queue.dirty ∧ key ∉ workshop.queue.processing :=
    ⟨sound.queue.dirty key isWaiting, sound.queue.free key isWaiting⟩
  refine ⟨sound.queue.nodup, waits, ?_, sound.alternates, sound.rests⟩
  intro opened key
  refine ⟨waits key, ?_⟩
  rintro ⟨marked, free⟩
  exact (sound.queue.held opened key marked).resolve_right free

/-- A key that is added again while a worker has it, and that another worker gets afterwards. -/
def handover : Workshop Nat String :=
  (((((opening (.ofSeconds 1) (.ofSeconds 8)).add "va-1").get 0).add "va-1").done 0 "va-1").get 1

theorem reachable_handover : Reachable (.ofSeconds 1) (.ofSeconds 8) handover := by
  have first : Reachable (.ofSeconds 1) (.ofSeconds 8)
      (((opening (.ofSeconds 1) (.ofSeconds 8) : Workshop Nat String).add "va-1").get 0) :=
    .tail (.tail .refl (.add "va-1")) (.get 0)
  exact .tail (.tail (.tail first (.add "va-1")) (.done 0 "va-1" (by decide))) (.get 1)

/-- The first worker is done with the key before the second one gets it. -/
theorem waiting_and_handed_once_in_handover :
    Reachable (.ofSeconds 1) (.ofSeconds 8) handover ∧
      handover.deeds = [.added "va-1", .handed 0 "va-1", .added "va-1", .finished 0 "va-1",
        .handed 1 "va-1"] ∧
      handover.queue.waiting.Nodup ∧
      (∀ key ∈ handover.queue.waiting,
        key ∈ handover.queue.dirty ∧ key ∉ handover.queue.processing) ∧
      (handover.queue.closed = false → ∀ key, key ∈ handover.queue.waiting ↔
        key ∈ handover.queue.dirty ∧ key ∉ handover.queue.processing) ∧
      Deed.Alternates handover.deeds ∧ Deed.Rests handover.deeds :=
  ⟨reachable_handover, rfl, reachable_handover.waiting_and_handed_once⟩

end Workshop

end VolumeAttacher
