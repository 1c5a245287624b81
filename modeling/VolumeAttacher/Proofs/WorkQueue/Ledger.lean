import VolumeAttacher.Proofs.WorkQueue.Workshop

/-!
# Keys that are owed

A queue owes every key that was added until it has handed it out. What it hands out comes in the
order in which it entered the queue, and no key comes more often than it was added.
-/

namespace VolumeAttacher

namespace WorkQueue

variable {Key : Type} [DecidableEq Key]

/-- A key that is added comes to the end of the queue, if anywhere. -/
theorem waiting_add (queue : WorkQueue Key) (key : Key) :
    ∃ new, (queue.add key).1.waiting = queue.waiting ++ new := by
  unfold WorkQueue.add
  split_ifs
  · exact ⟨[], (List.append_nil _).symm⟩
  · exact ⟨[], (List.append_nil _).symm⟩
  · exact ⟨[key], rfl⟩

/-- A key that a worker is done with comes to the end of the queue, if anywhere. -/
theorem waiting_done (queue : WorkQueue Key) (key : Key) :
    ∃ new, (queue.done key).1.waiting = queue.waiting ++ new := by
  unfold WorkQueue.done
  dsimp only
  split_ifs
  · exact ⟨[key], rfl⟩
  · exact ⟨[], (List.append_nil _).symm⟩

end WorkQueue

namespace Deed

variable {Worker Key : Type} {deed : Deed Worker Key} {deeds : List (Deed Worker Key)}
  {marked next : List Key}

/-- The key that was added. -/
def added? : Deed Worker Key → Option Key
  | .added key => some key
  | .handed _ _ | .finished _ _ | .closed => none

/-- The key that was handed out. -/
def handed? : Deed Worker Key → Option Key
  | .handed _ key => some key
  | .added _ | .finished _ _ | .closed => none

/-- Every key that was added was handed out since, or is marked. -/
def Owed (deeds : List (Deed Worker Key)) (marked : List Key) : Prop :=
  ∀ before key after, deeds = before ++ .added key :: after →
    (∃ worker, .handed worker key ∈ after) ∨ key ∈ marked

theorem Owed.concat
    (owed : Owed deeds marked)
    (added : ∀ key, deed = .added key → key ∈ next)
    (kept : ∀ key ∈ marked, (∃ worker, deed = .handed worker key) ∨ key ∈ next) :
    Owed (deeds ++ [deed]) next := by
  intro before key after split
  obtain ⟨-, last, -⟩ | ⟨rest, rfl, earlier⟩ := concat_eq_append_cons split
  · exact .inr (added key last.symm)
  · obtain ⟨worker, handed⟩ | isMarked := owed before key rest earlier
    · exact .inl ⟨worker, List.mem_append_left _ handed⟩
    · obtain ⟨worker, rfl⟩ | still := kept key isMarked
      · exact .inl ⟨worker, List.mem_append_right _ (List.mem_singleton_self _)⟩
      · exact .inr still

end Deed

namespace Workshop

variable {Worker Key : Type} {workshop : Workshop Worker Key} {worker : Worker} {key : Key}
  {start maximum : Duration}

/-- The keys that were added, in order. -/
def addedKeys (workshop : Workshop Worker Key) : List Key := workshop.deeds.filterMap Deed.added?

/-- The keys that were handed out, in order. -/
def handedKeys (workshop : Workshop Worker Key) : List Key := workshop.deeds.filterMap Deed.handed?

/-- The history accounts for every key: what entered the queue was handed out or waits, what was
added was handed out or is to be worked on, and each time for one addition. -/
structure Balanced [DecidableEq Key] (workshop : Workshop Worker Key) : Prop where
  order : workshop.entered = workshop.handedKeys ++ workshop.queue.waiting
  owed : workshop.queue.closed = false → Deed.Owed workshop.deeds workshop.queue.dirty
  covered : ∀ key, workshop.handedKeys.count key + (if key ∈ workshop.queue.dirty then 1 else 0) ≤
    workshop.addedKeys.count key

section After

variable (workshop : Workshop Worker Key) (queue : WorkQueue Key) (deed : Deed Worker Key)

theorem addedKeys_after :
    (workshop.after queue deed).addedKeys = workshop.addedKeys ++ deed.added?.toList := by
  simp only [addedKeys, after, List.filterMap_append, List.filterMap_cons, List.filterMap_nil]
  cases deed.added? <;> rfl

theorem handedKeys_after :
    (workshop.after queue deed).handedKeys = workshop.handedKeys ++ deed.handed?.toList := by
  simp only [handedKeys, after, List.filterMap_append, List.filterMap_cons, List.filterMap_nil]
  cases deed.handed? <;> rfl

end After

namespace Balanced

variable [DecidableEq Key]

theorem opening (start maximum : Duration) :
    (Workshop.opening start maximum : Workshop Worker Key).Balanced where
  order := rfl
  owed _ before key after split := by simp [Workshop.opening] at split
  covered key := by simp [Workshop.opening, WorkQueue.empty, handedKeys]

theorem remember
    (balanced : workshop.Balanced)
    (failures : List (Key × Backoff)) :
    Balanced { workshop with queue := { workshop.queue with failures } } :=
  { balanced with }

theorem delay (balanced : workshop.Balanced) (delayed : List Key) :
    Balanced { workshop with delayed } :=
  { balanced with }

theorem hold (balanced : workshop.Balanced) (held : List (Worker × Key)) :
    Balanced { workshop with held } :=
  { balanced with }

/-- A deed keeps the balance if what it hands out comes from the front of the queue and is no longer
to be worked on, and if what it adds is to be worked on. -/
theorem after
    {queue : WorkQueue Key}
    {deed : Deed Worker Key}
    (balanced : workshop.Balanced)
    (order : deed.handed?.toList ++ queue.waiting =
      workshop.queue.waiting ++ queue.waiting.drop workshop.queue.waiting.length)
    (opened : queue.closed = false → workshop.queue.closed = false)
    (added : queue.closed = false → ∀ key, deed = .added key → key ∈ queue.dirty)
    (kept : ∀ key ∈ workshop.queue.dirty, (∃ worker, deed = .handed worker key) ∨ key ∈ queue.dirty)
    (covered : ∀ key, deed.handed?.toList.count key + (if key ∈ queue.dirty then 1 else 0) ≤
      deed.added?.toList.count key + (if key ∈ workshop.queue.dirty then 1 else 0)) :
    (workshop.after queue deed).Balanced where
  order := by
    calc workshop.entered ++ queue.waiting.drop workshop.queue.waiting.length
      _ = workshop.handedKeys ++
          (workshop.queue.waiting ++ queue.waiting.drop workshop.queue.waiting.length) := by
        rw [balanced.order, List.append_assoc]
      _ = (workshop.after queue deed).handedKeys ++ queue.waiting := by
        rw [← order, handedKeys_after, List.append_assoc]
  owed isOpen := (balanced.owed (opened isOpen)).concat (added isOpen) kept
  covered key := by
    have earlier := balanced.covered key
    have now := covered key
    rw [handedKeys_after, addedKeys_after, List.count_append, List.count_append]
    change _ + (if key ∈ queue.dirty then 1 else 0) ≤ _
    omega

theorem shutDown (balanced : workshop.Balanced) : workshop.shutDown.Balanced := by
  refine balanced.after ?_ nofun nofun (fun _ marked => .inr marked) fun _ => Nat.le_refl _
  change workshop.queue.waiting = _ ++ workshop.queue.waiting.drop _
  rw [List.drop_length, List.append_nil]

theorem add (balanced : workshop.Balanced) (key : Key) : (workshop.add key).Balanced := by
  refine balanced.after ?_ ?_ ?_ ?_ ?_
  · obtain ⟨new, waiting⟩ := workshop.queue.waiting_add key
    rw [waiting, List.drop_left]
    rfl
  · rw [WorkQueue.closed_add]
    exact id
  · rintro isOpen _ ⟨⟩
    rw [WorkQueue.closed_add] at isOpen
    exact WorkQueue.mem_dirty_add.mpr (.inr ⟨isOpen, rfl⟩)
  · intro other marked
    exact .inr (WorkQueue.mem_dirty_add.mpr (.inl marked))
  · intro other
    by_cases same : other = key
    · subst same
      simp only [Deed.added?, Deed.handed?, Option.toList, List.count_nil,
        List.count_singleton_self]
      split <;> omega
    · simp [Deed.added?, Deed.handed?, WorkQueue.mem_dirty_add, same]

theorem addAfter (balanced : workshop.Balanced) (key : Key) (nanos : Nat) :
    (workshop.addAfter key nanos).Balanced := by
  unfold Workshop.addAfter
  split
  · exact balanced.add key
  · exact balanced.delay _

theorem get (balanced : workshop.Balanced) (sound : workshop.Sound) (worker : Worker) :
    (workshop.get worker).Balanced := by
  obtain ⟨queue, key, handed, shape⟩ | same := workshop.get_cases worker
  · obtain ⟨-, rest, waiting, next⟩ := WorkQueue.eq_of_get handed
    have marked : key ∈ workshop.queue.dirty := sound.queue.dirty key (by simp [waiting])
    have handing : (workshop.after queue (.handed worker key)).Balanced := by
      subst next
      refine balanced.after ?_ id nofun ?_ ?_
      · rw [waiting, List.drop_eq_nil_of_le (by simp), List.append_nil]
        rfl
      · intro other isMarked
        by_cases same : other = key
        · exact .inl ⟨worker, same ▸ rfl⟩
        · exact .inr (by simpa [same] using isMarked)
      · intro other
        by_cases same : other = key
        · subst same
          simp [Deed.added?, Deed.handed?, marked]
        · simp [Deed.added?, Deed.handed?, same, Ne.symm same]
    rw [shape]
    exact handing.hold _
  · rw [same]
    exact balanced

variable [DecidableEq Worker]

theorem done (balanced : workshop.Balanced) (worker : Worker) (key : Key) :
    (workshop.done worker key).Balanced := by
  have finishing :
      (workshop.after (workshop.queue.done key).1 (.finished worker key)).Balanced := by
    refine balanced.after ?_ ?_ nofun ?_ ?_
    · obtain ⟨new, waiting⟩ := workshop.queue.waiting_done key
      rw [waiting, List.drop_left]
      rfl
    · rw [WorkQueue.closed_done]
      exact id
    · intro other marked
      rw [WorkQueue.dirty_done]
      exact .inr marked
    · intro other
      rw [WorkQueue.dirty_done]
      exact Nat.le_refl _
  exact finishing.hold _

theorem step
    {next : Workshop Worker Key}
    (balanced : workshop.Balanced)
    (sound : workshop.Sound)
    (step : Step workshop next) :
    next.Balanced := by
  cases step with
  | add key => exact balanced.add key
  | addAfter key nanos => exact balanced.addAfter key nanos
  | retry key => exact (balanced.remember _).addAfter key _
  | ring key due => exact (balanced.delay _).add key
  | get worker => exact balanced.get sound worker
  | done worker key has => exact balanced.done worker key
  | forget key => exact balanced.remember _
  | shutDown => exact balanced.shutDown

end Balanced

variable [DecidableEq Worker] [DecidableEq Key]

theorem Reachable.balanced (reachable : Reachable start maximum workshop) :
    workshop.Balanced := by
  induction reachable with
  | refl => exact .opening start maximum
  | tail earlier step ih => exact ih.step (Reachable.sound earlier) step

/-- A queue that was not closed, in which no key waits and on none of whose keys anyone works, has
handed out every key since it was last added. The keys that entered a queue are those that it handed
out followed by those that wait, and it hands out no key more often than it was added. -/
theorem Reachable.handed_since_added
    (reachable : Reachable start maximum workshop) :
    (workshop.queue.closed = false → workshop.queue.waiting = [] →
      workshop.queue.processing = [] → ∀ before key after,
        workshop.deeds = before ++ .added key :: after → ∃ worker, .handed worker key ∈ after) ∧
      workshop.entered = workshop.handedKeys ++ workshop.queue.waiting ∧
      ∀ key, workshop.handedKeys.count key ≤ workshop.addedKeys.count key := by
  have balanced := reachable.balanced
  refine ⟨?_, balanced.order, ?_⟩
  · intro opened empty idle before key after split
    obtain handed | marked := balanced.owed opened before key after split
    · exact handed
    · have held := reachable.sound.queue.held opened key marked
      simp [empty, idle] at held
  · intro key
    exact Nat.le_of_add_right_le (balanced.covered key)

/-- A key that is added again while a worker has it, and that two workers are done with. -/
def rework : Workshop Nat String := handover.done 1 "va-1"

theorem reachable_rework : Reachable (.ofSeconds 1) (.ofSeconds 8) rework :=
  .tail reachable_handover (.done 1 "va-1" (by decide))

/-- Both times that it was added, the key was handed out afterwards. -/
theorem handed_since_added_in_rework :
    Reachable (.ofSeconds 1) (.ofSeconds 8) rework ∧
      rework.addedKeys = ["va-1", "va-1"] ∧
      (∀ before key after, rework.deeds = before ++ .added key :: after →
        ∃ worker, .handed worker key ∈ after) ∧
      rework.entered = rework.handedKeys ++ rework.queue.waiting ∧
      ∀ key, rework.handedKeys.count key ≤ rework.addedKeys.count key := by
  obtain ⟨handed, order, covered⟩ := reachable_rework.handed_since_added
  exact ⟨reachable_rework, rfl, handed rfl rfl rfl, order, covered⟩

end Workshop

end VolumeAttacher
