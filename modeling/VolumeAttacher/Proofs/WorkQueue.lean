import Mathlib.Data.List.Nodup
import Mathlib.Tactic.SplitIfs
import VolumeAttacher.WorkQueue

/-!
# Sound queues

What keeps a key from being with two workers: a key waits at most once, and not while a worker has
it. What is done with one key makes no difference to any other one.
-/

namespace VolumeAttacher

namespace WorkQueue

variable {Key : Type} {queue next : WorkQueue Key} {key other : Key}

/-- No key waits twice, or while a worker has it, and an open queue loses none. -/
structure Sound (queue : WorkQueue Key) : Prop where
  nodup : queue.waiting.Nodup
  dirty : ∀ key ∈ queue.waiting, key ∈ queue.dirty
  free : ∀ key ∈ queue.waiting, key ∉ queue.processing
  held : queue.closed = false →
    ∀ key ∈ queue.dirty, key ∈ queue.waiting ∨ key ∈ queue.processing

theorem Sound.empty (start maximum : Duration) : (empty start maximum : WorkQueue Key).Sound :=
  ⟨List.nodup_nil, nofun, nofun, nofun⟩

theorem Sound.shutDown (sound : queue.Sound) : queue.shutDown.Sound :=
  ⟨sound.nodup, sound.dirty, sound.free, nofun⟩

/-- What a queue remembers of failures does not matter. -/
theorem Sound.remember (sound : queue.Sound) (failures : List (Key × Backoff)) :
    Sound { queue with failures } :=
  ⟨sound.nodup, sound.dirty, sound.free, sound.held⟩

/-- A key that does not wait yet may come to the end of those that do. -/
theorem Sound.append
    (sound : queue.Sound)
    (fresh : key ∉ queue.waiting)
    (free : key ∉ next.processing)
    (waiting : next.waiting = queue.waiting ++ [key])
    (dirty : ∀ other, other ∈ next.dirty ↔ other = key ∨ other ∈ queue.dirty)
    (processing : ∀ other, other ≠ key → (other ∈ next.processing ↔ other ∈ queue.processing))
    (opened : queue.closed = false) :
    next.Sound := by
  have marked : key ∈ next.dirty := (dirty key).mpr (.inl rfl)
  refine ⟨?_, ?_, ?_, ?_⟩
  · rw [waiting, List.nodup_append]
    refine ⟨sound.nodup, List.nodup_singleton key, ?_⟩
    rintro other waits _ last rfl
    exact fresh (List.mem_singleton.mp last ▸ waits)
  · intro other waits
    rw [waiting, List.mem_append, List.mem_singleton] at waits
    obtain waits | rfl := waits
    · exact (dirty other).mpr (.inr (sound.dirty other waits))
    · exact marked
  · intro other waits
    rw [waiting, List.mem_append, List.mem_singleton] at waits
    obtain waits | rfl := waits
    · have differs : other ≠ key := fun same => fresh (same ▸ waits)
      exact fun taken => sound.free other waits ((processing other differs).mp taken)
    · exact free
  · intro _ other marked
    rw [waiting, List.mem_append, List.mem_singleton]
    by_cases same : other = key
    · exact .inl (.inr same)
    · obtain waits | taken := sound.held opened other (((dirty other).mp marked).resolve_left same)
      · exact .inl (.inl waits)
      · exact .inr ((processing other same).mpr taken)

variable [DecidableEq Key]

theorem Sound.add (sound : queue.Sound) (key : Key) : (queue.add key).1.Sound := by
  unfold WorkQueue.add
  split
  · exact sound
  · next fresh =>
    obtain ⟨opened, unseen⟩ : queue.closed = false ∧ key ∉ queue.dirty := by simp_all
    split
    · next taken =>
      refine ⟨sound.nodup, fun other waits => List.mem_cons_of_mem _ (sound.dirty other waits),
        sound.free, ?_⟩
      intro _ other marked
      obtain rfl | marked := List.mem_cons.mp marked
      · exact .inr taken
      · exact sound.held opened other marked
    · next idle =>
      exact sound.append (fun waits => unseen (sound.dirty key waits)) idle rfl
        (fun _ => List.mem_cons) (fun _ _ => Iff.rfl) opened

/-- A key that is handed out was the first of those that waited. -/
theorem eq_of_get
    (handed : queue.get = (next, .key key)) :
    queue.closed = false ∧ ∃ rest, queue.waiting = key :: rest ∧
      next = { queue with
        waiting := rest
        dirty := queue.dirty.filter (· ≠ key)
        processing := key :: queue.processing.filter (· ≠ key) } := by
  unfold WorkQueue.get at handed
  split at handed
  · simp at handed
  · next opened =>
    split at handed
    · simp at handed
    · next first rest waiting =>
      simp only [Prod.mk.injEq, Handout.key.injEq] at handed
      obtain ⟨rfl, rfl⟩ := handed
      exact ⟨by simpa using opened, rest, waiting, rfl⟩

theorem Sound.get (sound : queue.Sound) (handed : queue.get = (next, .key key)) : next.Sound := by
  obtain ⟨-, rest, waiting, rfl⟩ := eq_of_get handed
  have nodup := sound.nodup
  rw [waiting, List.nodup_cons] at nodup
  have waits {other : Key} (later : other ∈ rest) : other ∈ queue.waiting := by
    rw [waiting]
    exact List.mem_cons_of_mem _ later
  have differs {other : Key} (later : other ∈ rest) : other ≠ key :=
    fun same => nodup.1 (same ▸ later)
  refine ⟨nodup.2, ?_, ?_, ?_⟩
  · intro other later
    simpa [differs later] using sound.dirty other (waits later)
  · intro other later
    simpa [differs later] using sound.free other (waits later)
  · intro opened other marked
    obtain ⟨marked, differs⟩ : other ∈ queue.dirty ∧ other ≠ key := by simpa using marked
    have held := sound.held opened other marked
    simpa [waiting, differs] using held

theorem Sound.done (sound : queue.Sound) (taken : key ∈ queue.processing) :
    (queue.done key).1.Sound := by
  unfold WorkQueue.done
  split
  · next again =>
    obtain ⟨marked, opened⟩ : key ∈ queue.dirty ∧ queue.closed = false := by simp_all
    refine sound.append (fun waits => sound.free key waits taken) (by simp) rfl ?_
      (fun other differs => by simp [differs]) opened
    intro other
    exact ⟨.inr, fun either => either.elim (fun same => same ▸ marked) id⟩
  · next idle =>
    refine ⟨sound.nodup, sound.dirty, ?_, ?_⟩
    · intro other waits taken
      exact sound.free other waits (List.mem_filter.mp taken).1
    · intro opened other marked
      have differs : other ≠ key := by
        rintro rfl
        exact idle (by simp [marked, show queue.closed = false from opened])
      simpa [differs] using sound.held opened other marked

@[simp] theorem processing_done (queue : WorkQueue Key) (key : Key) :
    (queue.done key).1.processing = queue.processing.filter (· ≠ key) := by
  unfold WorkQueue.done
  dsimp only
  split <;> rfl

/-! ## Keys and what is done with others -/

@[simp] theorem dirty_done (queue : WorkQueue Key) (key : Key) :
    (queue.done key).1.dirty = queue.dirty := by
  unfold WorkQueue.done
  dsimp only
  split <;> rfl

@[simp] theorem processing_add (queue : WorkQueue Key) (key : Key) :
    (queue.add key).1.processing = queue.processing := by
  unfold WorkQueue.add
  split_ifs <;> rfl

@[simp] theorem closed_add (queue : WorkQueue Key) (key : Key) :
    (queue.add key).1.closed = queue.closed := by
  unfold WorkQueue.add
  split_ifs <;> rfl

/-- The keys that are to be worked on after one was added. -/
theorem mem_dirty_add :
    other ∈ (queue.add key).1.dirty ↔
      other ∈ queue.dirty ∨ queue.closed = false ∧ other = key := by
  unfold WorkQueue.add
  split_ifs with known
  · refine ⟨.inl, fun either => either.elim id fun ⟨opened, same⟩ => ?_⟩
    simpa [opened, same] using known
  all_goals
    obtain ⟨opened, -⟩ : queue.closed = false ∧ key ∉ queue.dirty := by simp_all
    simp [opened, or_comm]

/-- A key that was added meanwhile waits when a worker is done with it. -/
theorem mem_waiting_done (opened : queue.closed = false) (marked : key ∈ queue.dirty) :
    key ∈ (queue.done key).1.waiting := by
  simp [WorkQueue.done, opened, marked]

@[simp] theorem backoff_add (queue : WorkQueue Key) (key other : Key) :
    (queue.add key).1.backoff other = queue.backoff other := by
  unfold WorkQueue.add
  split_ifs <;> rfl

@[simp] theorem backoff_done (queue : WorkQueue Key) (key other : Key) :
    (queue.done key).1.backoff other = queue.backoff other := by
  unfold WorkQueue.done
  dsimp only
  split <;> rfl

@[simp] theorem closed_done (queue : WorkQueue Key) (key : Key) :
    (queue.done key).1.closed = queue.closed := by
  unfold WorkQueue.done
  dsimp only
  split <;> rfl

theorem lookup_filter_of_ne
    {Value : Type}
    {key other : Key}
    (entries : List (Key × Value))
    (differ : other ≠ key) :
    (entries.filter (·.1 ≠ key)).lookup other = entries.lookup other := by
  induction entries with
  | nil => rfl
  | cons entry rest ih =>
    obtain ⟨first, value⟩ := entry
    by_cases same : first = key
    · subst same
      have missed : (other == first) = false := by simpa using differ
      rw [List.filter_cons_of_neg (by simp), ih, List.lookup_cons, missed]
    · rw [List.filter_cons_of_pos (by simpa using same), List.lookup_cons, List.lookup_cons, ih]

theorem backoff_forget_of_ne (queue : WorkQueue Key) (differ : other ≠ key) :
    (queue.forget key).backoff other = queue.backoff other := by
  simp only [WorkQueue.backoff, forget, lookup_filter_of_ne _ differ]

theorem backoff_fail_of_ne (queue : WorkQueue Key) (differ : other ≠ key) :
    (queue.fail key).1.backoff other = queue.backoff other := by
  have missed : (other == key) = false := by simpa using differ
  simp only [WorkQueue.backoff, fail, List.lookup_cons, missed, lookup_filter_of_ne _ differ]

end WorkQueue

end VolumeAttacher
