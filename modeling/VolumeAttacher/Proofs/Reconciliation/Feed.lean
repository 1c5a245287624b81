import Mathlib.Data.List.Nodup
import VolumeAttacher.Reconciliation.Feed

/-!
# Cached objects and their names

What the feeds keep of the caches: each name is that of one object of its kind, and an object that is
found by its name was told by the last change that told of the name.
-/

namespace VolumeAttacher

namespace Change

variable {Object : Type} {nameOf : Object → String} {objects : List Object} {name : String}

/-- The first object of a name is the only one if names are given once. -/
theorem find?_eq_some_iff
    {object : Object}
    (distinct : (objects.map nameOf).Nodup) :
    objects.find? (nameOf · = name) = some object ↔ object ∈ objects ∧ nameOf object = name := by
  refine ⟨fun found => ⟨List.mem_of_find?_eq_some found, by simpa using List.find?_some found⟩, ?_⟩
  rintro ⟨present, rfl⟩
  cases found : objects.find? (nameOf · = nameOf object) with
  | none => simpa using List.find?_eq_none.mp found object present
  | some other =>
    have named : nameOf other = nameOf object := by simpa using List.find?_some found
    exact congrArg some
      (List.inj_on_of_nodup_map distinct (List.mem_of_find?_eq_some found) present named)

theorem mem_insert_map {object : Object} :
    name ∈ (insert nameOf object objects).map nameOf ↔
      name = nameOf object ∨ name ∈ objects.map nameOf := by
  induction objects with
  | nil => simp [insert]
  | cons first rest ih =>
    unfold insert
    split
    · next same => simp [same]
    · rw [List.map_cons, List.mem_cons, ih, List.map_cons, List.mem_cons]
      exact or_left_comm

theorem nodup_insert
    (object : Object)
    (distinct : (objects.map nameOf).Nodup) :
    ((insert nameOf object objects).map nameOf).Nodup := by
  induction objects with
  | nil => simp [insert]
  | cons first rest ih =>
    obtain ⟨unused, distinct⟩ := List.nodup_cons.mp distinct
    unfold insert
    split
    · next same => exact List.nodup_cons.mpr ⟨same ▸ unused, distinct⟩
    · next differs =>
      refine List.nodup_cons.mpr ⟨?_, ih distinct⟩
      rw [mem_insert_map]
      exact not_or.mpr ⟨differs, unused⟩

/-- Every change leaves each name to one object. -/
theorem nodup_apply
    (change : Change Object)
    (distinct : (objects.map nameOf).Nodup) :
    ((change.apply nameOf objects).map nameOf).Nodup := by
  cases change with
  | applied object => exact nodup_insert object distinct
  | deleted object => exact distinct.sublist (List.filter_sublist.map nameOf)
  | listed all =>
    have goesOn (all before : List Object) (distinct : (before.map nameOf).Nodup) :
        ((all.foldl (fun objects object => insert nameOf object objects) before).map
          nameOf).Nodup := by
      induction all generalizing before with
      | nil => exact distinct
      | cons object rest ih => exact ih _ (nodup_insert object distinct)
    exact goesOn all [] List.nodup_nil

/-- What is found of a name after an insertion. -/
theorem find?_insert (object : Object) :
    (insert nameOf object objects).find? (nameOf · = name) =
      if nameOf object = name then some object else objects.find? (nameOf · = name) := by
  induction objects with
  | nil => simp [insert, List.find?_singleton]
  | cons first rest ih =>
    unfold insert
    split
    · next same => simp only [List.find?_cons, same]; split <;> simp_all
    · next differs =>
      rw [List.find?_cons, ih, List.find?_cons]
      split
      · next named => rw [if_neg fun same => differs ((of_decide_eq_true named).trans same.symm)]
      · rfl

/-- What is found of a name after a change was told by it or was there before. -/
theorem find?_apply
    {object : Object}
    (change : Change Object)
    (found : (change.apply nameOf objects).find? (nameOf · = name) = some object) :
    object ∈ change.objects ∨ objects.find? (nameOf · = name) = some object := by
  cases change with
  | applied told =>
    unfold apply at found
    rw [find?_insert] at found
    split at found
    · exact .inl (by simpa [Change.objects, eq_comm] using found)
    · exact .inr found
  | deleted gone =>
    have kept : nameOf object ≠ nameOf gone := by
      simpa using (List.mem_filter.mp (List.mem_of_find?_eq_some found)).2
    have named : nameOf object = name := by simpa using List.find?_some found
    unfold apply at found
    rw [List.find?_filter] at found
    -- Whatever has the name is kept, so the filter makes no difference.
    have same (other : Object) :
        (decide (nameOf other ≠ nameOf gone) = true ∧ decide (nameOf other = name) = true) ↔
          nameOf other = name := by
      simp only [decide_eq_true_eq]
      refine and_iff_right_of_imp ?_
      rintro isName
      rwa [isName, ← named]
    simp only [same] at found
    exact .inr found
  | listed all =>
    have goesOn (all before : List Object)
        (found : (all.foldl (fun objects object => insert nameOf object objects) before).find?
          (nameOf · = name) = some object) :
        object ∈ all ∨ before.find? (nameOf · = name) = some object := by
      induction all generalizing before with
      | nil => exact .inr found
      | cons told rest ih =>
        obtain later | found := ih _ found
        · exact .inl (List.mem_cons_of_mem _ later)
        · rw [find?_insert] at found
          split at found
          · exact .inl (by simpa [eq_comm] using Or.inl found)
          · exact .inr found
    obtain told | found := goesOn all [] found
    · exact .inl told
    · cases found

end Change

namespace Caches

/-- The volume of an attachment is the cached one of its name. -/
theorem volumeOf_eq_ok_iff
    {caches : Caches}
    {attachment : VolumeAttachment}
    {volume : PersistentVolume} :
    caches.volumeOf attachment = .ok volume ↔
      ∃ name, attachment.volumeName = some name ∧ caches.volume? name = some volume := by
  unfold Caches.volumeOf
  cases attachment.volumeName with
  | none => exact ⟨nofun, nofun⟩
  | some name =>
    cases found : caches.volume? name with
    | none => simp [pure, Except.pure, bind, Except.bind, found]
    | some other => simp [pure, Except.pure, bind, Except.bind, found]

/-- Each name is that of one attachment at most, and of one volume at most. -/
structure Distinct (caches : Caches) : Prop where
  attachments : (caches.attachments.map VolumeAttachment.name).Nodup
  volumes : (caches.volumes.map PersistentVolume.name).Nodup

theorem distinct_empty : Caches.empty.Distinct := ⟨List.nodup_nil, List.nodup_nil⟩

/-- The feeds keep names distinct. -/
theorem Distinct.apply {caches : Caches} (distinct : caches.Distinct) (change : CacheChange) :
    (caches.apply change).Distinct := by
  cases change with
  | attachments change => exact ⟨change.nodup_apply distinct.attachments, distinct.volumes⟩
  | volumes change => exact ⟨distinct.attachments, change.nodup_apply distinct.volumes⟩
  | nodes | registrations => exact ⟨distinct.attachments, distinct.volumes⟩

end Caches

end VolumeAttacher
