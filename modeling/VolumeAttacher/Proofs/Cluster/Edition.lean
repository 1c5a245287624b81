import VolumeAttacher.Proofs.Cluster.Metadata

/-!
# Editions of objects

An object as it was written, and as readers get it: they get what was written, with the version that
the server gave it among the metadata.
-/

namespace VolumeAttacher

/-- Neither of two paths leads through the end of the other. -/
def Apart (path other : List String) : Prop := ¬ path <+: other ∧ ¬ other <+: path

instance (path other : List String) : Decidable (Apart path other) :=
  inferInstanceAs (Decidable (¬ path <+: other ∧ ¬ other <+: path))

namespace Json

theorem at?_cons_cons (first second : String) (rest : List String) (value : Json) :
    at? (first :: second :: rest) value =
      at? (second :: rest) ((lookup first value.membersOf).getD .null) := by
  rw [at?_cons]
  cases lookup first value.membersOf <;> rfl

/-- A value with the status of another one. -/
def withStatusOf (value other : Json) : Json :=
  .object (match lookup "status" other.membersOf with
    | some status => setMember "status" status value.membersOf
    | none => eraseMember "status" value.membersOf)

theorem at?_withStatusOf_status (rest : List String) (value other : Json) :
    (value.withStatusOf other).at? ("status" :: rest) = other.at? ("status" :: rest) := by
  rw [at?_cons, at?_cons]
  unfold withStatusOf
  cases lookup "status" other.membersOf with
  | none => rw [membersOf, lookup_eraseMember_self]
  | some status => rw [membersOf, lookup_setMember_self]

theorem at?_withStatusOf_of_ne
    {name : String}
    (rest : List String)
    (value other : Json)
    (differ : name ≠ "status") :
    (value.withStatusOf other).at? (name :: rest) = value.at? (name :: rest) := by
  rw [at?_cons, at?_cons]
  unfold withStatusOf
  cases lookup "status" other.membersOf with
  | none => rw [membersOf, lookup_eraseMember_of_ne _ differ]
  | some status => rw [membersOf, lookup_setMember_of_ne _ _ differ]

end Json

/-- An object as it was written, and the version that the server gave it. -/
structure Edition where
  body : Json
  version : String

/-- The object as readers get it, its version among its metadata. -/
def Edition.shown (edition : Edition) : Json :=
  let metadata := ((edition.body.member? "metadata").getD .null).membersOf
  .object (Json.setMember "metadata"
    (.object (Json.setMember "resourceVersion" (.text edition.version) metadata))
    edition.body.membersOf)

namespace Edition

variable (edition : Edition)

/-- The members of the metadata that were written. -/
def metadata : List (String × Json) :=
  ((Json.lookup "metadata" edition.body.membersOf).getD .null).membersOf

/-- The metadata that readers get. -/
def shownMetadata : List (String × Json) :=
  Json.setMember "resourceVersion" (.text edition.version) edition.metadata

theorem shown_eq : edition.shown =
    .object (Json.setMember "metadata" (.object edition.shownMetadata) edition.body.membersOf) := by
  unfold shown shownMetadata metadata
  rw [Json.membersOf_member?]

theorem metadata?_shown :
    edition.shown.metadata? = Metadata.ofJson? (.object edition.shownMetadata) := by
  rw [shown_eq]
  exact Json.metadata?_object (Json.lookup_setMember_self ..)

/-- What an object says of its kind is shown as it was written. -/
theorem isOfKind_shown (resource : Resource) :
    edition.shown.isOfKind resource = (Json.object edition.body.membersOf).isOfKind resource := by
  rw [shown_eq]
  exact Json.isOfKind_congr resource (Json.lookup_setMember_of_ne _ _ (by decide))
    (Json.lookup_setMember_of_ne _ _ (by decide))

theorem at?_metadata (name : String) (rest : List String) :
    edition.shown.at? ("metadata" :: name :: rest) =
      (Json.lookup name edition.shownMetadata).bind (Json.at? rest) := by
  rw [shown_eq, Json.at?_cons_cons, Json.membersOf, Json.lookup_setMember_self, Option.getD_some,
    Json.at?_cons, Json.membersOf]

theorem at?_metadata_shown (name : String) :
    edition.shown.at? ["metadata", name] = Json.lookup name edition.shownMetadata :=
  (edition.at?_metadata name []).trans (Option.bind_fun_some _)

/-- The path of the version that readers see. -/
def versionPath : List String := ["metadata", "resourceVersion"]

/-- Readers see what was written, and the version instead of what was written there. -/
theorem at?_shown {path : List String} (apart : Apart path versionPath) :
    edition.shown.at? path = edition.body.at? path := by
  rw [shown_eq]
  match path with
  | [] => exact absurd List.nil_prefix apart.1
  | [name] =>
    have differ : name ≠ "metadata" := by
      rintro rfl
      exact apart.1 (by decide)
    rw [Json.at?_cons, Json.membersOf, Json.lookup_setMember_of_ne _ _ differ, Json.at?_cons]
  | name :: second :: rest =>
    rw [Json.at?_cons_cons, Json.at?_cons_cons, Json.membersOf]
    by_cases same : name = "metadata"
    · subst same
      have differ : second ≠ "resourceVersion" := by
        rintro rfl
        exact apart.2 ⟨rest, rfl⟩
      rw [Json.lookup_setMember_self, Option.getD_some, Json.at?_cons, Json.membersOf,
        shownMetadata, Json.lookup_setMember_of_ne _ _ differ, metadata, Json.at?_cons]
    · rw [Json.lookup_setMember_of_ne _ _ same]

variable {edition}

theorem resourceVersion_of_shown
    {metadata : Metadata}
    (read : Metadata.ofJson? (.object edition.shownMetadata) = some metadata) :
    metadata.resourceVersion = some edition.version := by
  have version := (Metadata.ofJson?_object_eq_some_iff.mp read).2.1
  have isText : Json.text edition.version ≠ .null := nofun
  rw [shownMetadata, Json.optional_setMember_self _ _ _ isText] at version
  exact (Option.some.inj version).symm

end Edition

end VolumeAttacher
