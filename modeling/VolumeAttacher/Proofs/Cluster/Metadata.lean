import VolumeAttacher.Cluster.Object
import VolumeAttacher.Proofs.Json.Members

/-!
# Metadata of objects

What is read of the metadata of an object, member by member, and that every kind of object is read
with its metadata.
-/

namespace VolumeAttacher

namespace Json

/-- A member is read the same if the same stands there. -/
theorem member?_congr
    {name other : String}
    {members others : List (String × Json)}
    (same : lookup name members = lookup other others) :
    (object members).member? name = (object others).member? other := by
  unfold member?
  dsimp only
  rw [same]

theorem optional_congr
    {α : Type}
    {name : String}
    {members others : List (String × Json)}
    (read : Json → Option α)
    (same : lookup name members = lookup name others) :
    (object members).optional name read = (object others).optional name read := by
  unfold optional
  rw [member?_congr same]

/-- An object is of a kind if another one is that says the same of its kind. -/
theorem isOfKind_congr
    {members others : List (String × Json)}
    (resource : Resource)
    (sameVersion : lookup "apiVersion" members = lookup "apiVersion" others)
    (sameKind : lookup "kind" members = lookup "kind" others) :
    (object members).isOfKind resource = (object others).isOfKind resource := by
  unfold isOfKind
  dsimp only
  rw [sameVersion, sameKind]

theorem member?_of_lookup
    {name : String}
    {value : Json}
    {members : List (String × Json)}
    (found : lookup name members = some value)
    (isThere : value ≠ .null) :
    (object members).member? name = some value := by
  unfold member?
  dsimp only
  rw [found]
  cases value with
  | null => exact absurd rfl isThere
  | boolean | whole | decimal | text | array | object => rfl

theorem optional_of_lookup
    {α : Type}
    {name : String}
    {value : Json}
    {members : List (String × Json)}
    (read : Json → Option α)
    (found : lookup name members = some value)
    (isThere : value ≠ .null) :
    (object members).optional name read = (read value).map some := by
  unfold optional
  rw [member?_of_lookup found isThere]

theorem optional_setMember_self
    {α : Type}
    {value : Json}
    (name : String)
    (members : List (String × Json))
    (read : Json → Option α)
    (isThere : value ≠ .null) :
    (object (setMember name value members)).optional name read = (read value).map some :=
  optional_of_lookup read (lookup_setMember_self ..) isThere

/-- An absent member and one that is null count as the default. -/
theorem getD_of_optional
    {α : Type}
    {name : String}
    {members : List (String × Json)}
    {read : Json → Option α}
    {default result : α}
    (nothing : read .null = none)
    (found : ((object members).optional name read).map (·.getD default) = some result) :
    ((lookup name members).bind read).getD default = result := by
  cases known : lookup name members with
  | none =>
    unfold optional member? at found
    simpa [known] using found
  | some value =>
    by_cases isNull : value = .null
    · subst isNull
      unfold optional member? at found
      simpa [known, nothing] using found
    · rw [optional_of_lookup _ known isNull] at found
      cases valid : read value with
      | none => simp [valid] at found
      | some other => simpa [valid] using found

end Json

/-- The metadata of an object are its members' readings. -/
theorem Metadata.ofJson?_object_eq_some_iff
    {members : List (String × Json)}
    {metadata : Metadata} :
    ofJson? (.object members) = some metadata ↔
      (Json.object members).optional "name" Json.text? = some metadata.name ∧
      (Json.object members).optional "resourceVersion" Json.text? =
        some metadata.resourceVersion ∧
      ((Json.object members).optional "finalizers" Json.texts?).map (·.getD []) =
        some metadata.finalizers ∧
      ((Json.object members).optional "annotations" Json.textMap?).map (·.getD []) =
        some metadata.annotations ∧
      ((Json.object members).optional "deletionTimestamp" fun time => do
        Timestamp.ofText? (← time.text?)) = some metadata.deletionTime := by
  obtain ⟨name, version, finalizers, annotations, deletionTime⟩ := metadata
  unfold ofJson?
  rw [if_neg (by simp [Json.isObject])]
  simp only [Option.bind_eq_bind, Option.bind_eq_some_iff, Option.map_eq_some_iff]
  constructor
  · rintro ⟨_, name, _, version, _, finalizers, _, annotations, _, deletionTime, same⟩
    cases same
    exact ⟨name, version, ⟨_, finalizers, rfl⟩, ⟨_, annotations, rfl⟩, deletionTime⟩
  · rintro ⟨name, version, ⟨_, finalizers, rfl⟩, ⟨_, annotations, rfl⟩, deletionTime⟩
    exact ⟨_, name, _, version, _, finalizers, _, annotations, _, deletionTime, rfl⟩

/-- The metadata of an object that has some. -/
theorem Json.metadata?_object
    {members metadata : List (String × Json)}
    (found : lookup "metadata" members = some (.object metadata)) :
    (object members).metadata? = Metadata.ofJson? (.object metadata) := by
  unfold metadata?
  rw [optional_of_lookup _ found nofun]
  cases Metadata.ofJson? (.object metadata) <;> rfl

theorem VolumeAttachment.metadata?_of_ofJson?
    {value : Json}
    {attachment : VolumeAttachment}
    (read : ofJson? value = some attachment) :
    value.metadata? = some attachment.metadata := by
  unfold ofJson? at read
  split at read
  · cases read
  · simp only [Option.bind_eq_bind, Option.bind_eq_some_iff] at read
    obtain ⟨_, -, _, -, _, -, metadata, found, _, -, _, -, _, -, _, -, same⟩ := read
    obtain rfl := Option.some.inj same
    exact found

theorem PersistentVolume.metadata?_of_ofJson?
    {value : Json}
    {volume : PersistentVolume}
    (read : ofJson? value = some volume) :
    value.metadata? = some volume.metadata := by
  unfold ofJson? at read
  split at read
  · cases read
  · simp only [Option.bind_eq_bind, Option.bind_eq_some_iff] at read
    obtain ⟨metadata, found, _, -, same⟩ := read
    obtain rfl := Option.some.inj same
    exact found

end VolumeAttacher
