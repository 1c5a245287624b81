import VolumeAttacher.Cluster.Client
import VolumeAttacher.Proofs.Cluster.Metadata
import VolumeAttacher.Proofs.Cluster.Registry
import VolumeAttacher.Proofs.Json.TextMaps

/-!
# Edits of finalizers

An edit of finalizers sends the whole list, made from a copy of the object, and the version of that
copy. So it takes effect only on what was copied, however many others write to the object, and it
then changes the one finalizer, what the attachment remembers of its node, and nothing else.
-/

namespace VolumeAttacher

namespace ClusterClient

theorem mem_withFinalizer (finalizers : List String) (finalizer : String) :
    finalizer ∈ withFinalizer finalizers finalizer := by
  unfold withFinalizer
  split
  · assumption
  · simp

theorem not_mem_withoutFinalizer (finalizers : List String) (finalizer : String) :
    finalizer ∉ withoutFinalizer finalizers finalizer := by
  simp [withoutFinalizer]

end ClusterClient

namespace Json

/-- The finalizers of an object. -/
def finalizers (object : Json) : List String :=
  ((object.at? ["metadata", "finalizers"]).bind texts?).getD []

theorem texts?_ofTexts (texts : List String) : texts? (ofTexts texts) = some texts := by
  unfold texts? ofTexts
  induction texts with
  | nil => rfl
  | cons text rest inductionHypothesis => simp_all [text?]

end Json

namespace Edition

variable {edition : Edition} {metadata : Metadata}

theorem finalizers_shown (read : edition.shown.metadata? = some metadata) :
    edition.shown.finalizers = metadata.finalizers := by
  rw [metadata?_shown, Metadata.ofJson?_object_eq_some_iff] at read
  obtain ⟨-, -, finalizers, -, -⟩ := read
  rw [Json.finalizers, at?_metadata_shown]
  exact Json.getD_of_optional rfl finalizers

theorem at?_annotation (read : edition.shown.metadata? = some metadata) (key : String) :
    edition.shown.at? ["metadata", "annotations", key] = (metadata.annotation? key).map .text := by
  rw [metadata?_shown, Metadata.ofJson?_object_eq_some_iff] at read
  obtain ⟨-, -, -, annotations, -⟩ := read
  rw [at?_metadata, Metadata.annotation?]
  cases found : Json.lookup "annotations" edition.shownMetadata with
  | none =>
    have absent : [] = metadata.annotations := by
      simpa [Json.optional, Json.member?, found] using annotations
    rw [← absent]
    rfl
  | some value =>
    cases value with
    | null =>
      have absent : [] = metadata.annotations := by
        simpa [Json.optional, Json.member?, found] using annotations
      rw [← absent]
      rfl
    | object members =>
      rw [Json.optional_of_lookup _ found (by simp)] at annotations
      have isMap : Json.textMap? (.object members) = some metadata.annotations := by
        simpa using annotations
      rw [Option.bind_some, Json.at?_cons, Json.membersOf, Json.lookup_of_textMap? isMap key]
      exact Option.bind_fun_some _
    | boolean | whole | decimal | text | array =>
      rw [Json.optional_of_lookup _ found (by simp)] at annotations
      cases annotations

end Edition

/-- An edit of finalizers, and the copy of the object that it is made from. -/
inductive FinalizerEdit where
  /-- The finalizer is added, and what the driver calls the node is remembered. -/
  | addToAttachment (copy : VolumeAttachment) (nodeId : String)
  | removeFromAttachment (copy : VolumeAttachment)
  | addToVolume (copy : PersistentVolume)
  | removeFromVolume (copy : PersistentVolume)

namespace FinalizerEdit

/-- The request of an edit. -/
def request (finalizer : String) : FinalizerEdit → ClusterRequest
  | .addToAttachment copy nodeId => ClusterClient.addAttachmentFinalizer copy finalizer nodeId
  | .removeFromAttachment copy => ClusterClient.removeAttachmentFinalizer copy finalizer
  | .addToVolume copy => ClusterClient.addVolumeFinalizer copy finalizer
  | .removeFromVolume copy => ClusterClient.removeVolumeFinalizer copy finalizer

/-- The edit is made from a copy of the object as it was written. -/
def IsMadeFrom (edition : Edition) : FinalizerEdit → Prop
  | .addToAttachment copy _ | .removeFromAttachment copy =>
    VolumeAttachment.ofJson? edition.shown = some copy
  | .addToVolume copy | .removeFromVolume copy =>
    PersistentVolume.ofJson? edition.shown = some copy

/-- What finalizers become by an edit. -/
def outcome (finalizer : String) (finalizers : List String) : FinalizerEdit → List String
  | .addToAttachment _ _ | .addToVolume _ =>
    if finalizer ∈ finalizers then finalizers else finalizers ++ [finalizer]
  | .removeFromAttachment _ | .removeFromVolume _ => finalizers.filter (· ≠ finalizer)

/-- The places that an edit may change. -/
def places : FinalizerEdit → List (List String)
  | .addToAttachment _ _ =>
    [Edition.versionPath, ["metadata", "finalizers"],
      ["metadata", "annotations", attachmentNodeIdKey]]
  | .removeFromAttachment _ | .addToVolume _ | .removeFromVolume _ =>
    [Edition.versionPath, ["metadata", "finalizers"]]

/-- The metadata of the copy. -/
def metadata : FinalizerEdit → Metadata
  | .addToAttachment copy _ | .removeFromAttachment copy => copy.metadata
  | .addToVolume copy | .removeFromVolume copy => copy.metadata

/-- What is changed in the metadata besides the finalizers. -/
def others : FinalizerEdit → List (String × Json)
  | .addToAttachment _ nodeId =>
    [("annotations", .object [(attachmentNodeIdKey, .text nodeId)])]
  | .removeFromAttachment _ | .addToVolume _ | .removeFromVolume _ => []

/-- What an edit sends of the metadata. -/
def changes (finalizer : String) (edit : FinalizerEdit) : List (String × Json) :=
  ("resourceVersion", ClusterClient.orNull edit.metadata.resourceVersion) ::
    ("finalizers", .ofTexts (edit.outcome finalizer edit.metadata.finalizers)) :: edit.others

/-- Where the object is kept that is edited. -/
def address : FinalizerEdit → Address
  | .addToAttachment copy _ | .removeFromAttachment copy => .ofAttachment copy.name
  | .addToVolume copy | .removeFromVolume copy => .ofVolume copy.name

variable {edit : FinalizerEdit} {old new : Edition} {finalizer : String}

theorem method_request (edit : FinalizerEdit) (finalizer : String) :
    (edit.request finalizer).method = .patch := by
  cases edit <;> rfl

/-- An edit is sent to its object. -/
theorem part?_request (edit : FinalizerEdit) (finalizer : String) :
    (edit.request finalizer).part? edit.address = some .allButStatus := by
  have posts : (edit.request finalizer).method ≠ .post := by simp [method_request]
  cases edit with
  | addToAttachment copy | removeFromAttachment copy =>
    exact ClusterRequest.part?_of_path posts (Address.path_attachment copy.name)
  | addToVolume copy | removeFromVolume copy =>
    exact ClusterRequest.part?_of_path posts (Address.path_volume copy.name)

theorem versionPath_mem_places (edit : FinalizerEdit) : Edition.versionPath ∈ edit.places := by
  cases edit <;> exact List.mem_cons_self

theorem content_request (edit : FinalizerEdit) (finalizer : String) :
    (edit.request finalizer).content =
      .object [("metadata", .object (edit.changes finalizer))] := by
  cases edit <;> rfl

/-- An edit states the version of the copy. -/
theorem statedVersion?_request (edit : FinalizerEdit) (finalizer : String) :
    ClusterServer.statedVersion? (edit.request finalizer).content =
      edit.metadata.resourceVersion := by
  rw [edit.content_request, changes]
  cases edit.metadata.resourceVersion <;> cases edit <;> rfl

/-- The copy is read from what was copied. -/
theorem IsMadeFrom.metadata? (isMade : edit.IsMadeFrom old) :
    old.shown.metadata? = some edit.metadata := by
  cases edit with
  | addToAttachment | removeFromAttachment =>
    exact VolumeAttachment.metadata?_of_ofJson? isMade
  | addToVolume | removeFromVolume => exact PersistentVolume.metadata?_of_ofJson? isMade

/-- An edit says nothing of what is apart from the places that it may change. -/
theorem not_concerns
    {path : List String}
    (edit : FinalizerEdit)
    (finalizer : String)
    (apart : ∀ place ∈ edit.places, Apart path place) :
    ¬ Json.Concerns (edit.request finalizer).content path := by
  have version := apart _ edit.versionPath_mem_places
  have finalizers : Apart path ["metadata", "finalizers"] :=
    apart _ (by cases edit <;> simp [places])
  rw [content_request]
  intro concerns
  obtain rfl | ⟨name, change, rest, rfl, present, concerns⟩ := concerns.of_object
  · exact version.1 List.nil_prefix
  obtain ⟨rfl, rfl⟩ := Prod.mk.inj (List.mem_singleton.mp present)
  obtain rfl | ⟨name, change, rest, rfl, present, concerns⟩ := concerns.of_object
  · exact version.1 (by decide)
  rw [changes, List.mem_cons, List.mem_cons] at present
  obtain stated | listed | besides := present
  · obtain ⟨rfl, -⟩ := Prod.mk.inj stated
    exact version.2 ⟨rest, rfl⟩
  · obtain ⟨rfl, -⟩ := Prod.mk.inj listed
    exact finalizers.2 ⟨rest, rfl⟩
  · cases edit with
    | addToAttachment copy nodeId =>
      have annotation := apart ["metadata", "annotations", attachmentNodeIdKey] (by simp [places])
      obtain ⟨rfl, rfl⟩ := Prod.mk.inj (List.mem_singleton.mp besides)
      obtain rfl | ⟨name, change, rest, rfl, present, -⟩ := concerns.of_object
      · exact annotation.1 ⟨[attachmentNodeIdKey], rfl⟩
      · obtain ⟨rfl, -⟩ := Prod.mk.inj (List.mem_singleton.mp present)
        exact annotation.2 ⟨rest, rfl⟩
    | removeFromAttachment | addToVolume | removeFromVolume => exact List.not_mem_nil besides

/-- What an accepted edit makes of an object. -/
theorem body_of_makes (makes : (edit.request finalizer).Makes edit.address old new) :
    new.body =
      (old.body.mergePatch (edit.request finalizer).content).withStatusOf old.body := by
  obtain ⟨part, reaches, body⟩ := makes.body
  obtain rfl := Option.some.inj ((edit.part?_request finalizer).symm.trans reaches)
  rw [body, ClusterRequest.outcome, ClusterRequest.stated, edit.method_request]

/-- An accepted edit leaves alone what is apart from its places. -/
theorem at?_of_makes
    {path : List String}
    (makes : (edit.request finalizer).Makes edit.address old new)
    (apart : ∀ place ∈ edit.places, Apart path place) :
    new.shown.at? path = old.shown.at? path := by
  have version := apart _ edit.versionPath_mem_places
  rw [new.at?_shown version, old.at?_shown version, body_of_makes makes]
  cases path with
  | nil => exact absurd List.nil_prefix version.1
  | cons name rest =>
    by_cases same : name = "status"
    · rw [same, Json.at?_withStatusOf_status]
    · rw [Json.at?_withStatusOf_of_ne _ _ _ same,
        Json.at?_mergePatch (edit.not_concerns finalizer apart)]

/-- What an accepted edit makes of the metadata. -/
theorem lookup_metadata_of_makes
    {name : String}
    (makes : (edit.request finalizer).Makes edit.address old new)
    (differ : name ≠ "resourceVersion") :
    Json.lookup name new.shownMetadata =
      Json.lookup name (Json.mergeMembers old.metadata (edit.changes finalizer)) := by
  have apart : Apart ["metadata", name] Edition.versionPath := by
    constructor <;> simp [Edition.versionPath, differ, Ne.symm differ]
  have metadata (changes : List (String × Json)) : Json.lookup "metadata"
      (Json.mergeMembers old.body.membersOf [("metadata", .object changes)]) =
        some (((Json.lookup "metadata" old.body.membersOf).getD .null).mergePatch
          (.object changes)) :=
    Json.lookup_mergeMembers_of_named _ [] [] nofun nofun nofun
  rw [← new.at?_metadata_shown, new.at?_shown apart, body_of_makes makes,
    Json.at?_withStatusOf_of_ne _ _ _ (by decide), edit.content_request, Json.mergePatch_object,
    Json.at?_cons_cons, Json.membersOf, metadata, Option.getD_some, Json.at?_cons]
  exact Option.bind_fun_some _

/-- The finalizers after an accepted edit are those that it sends. -/
theorem finalizers_of_makes (makes : (edit.request finalizer).Makes edit.address old new) :
    new.shown.finalizers = edit.outcome finalizer edit.metadata.finalizers := by
  have apart : ∀ change ∈ edit.others, "finalizers" ≠ change.1 := by
    cases edit <;> simp [others]
  let version := ("resourceVersion", ClusterClient.orNull edit.metadata.resourceVersion)
  let list := Json.ofTexts (edit.outcome finalizer edit.metadata.finalizers)
  have listed : Json.lookup "finalizers"
      (Json.mergeMembers old.metadata (edit.changes finalizer)) = some list :=
    Json.lookup_mergeMembers_of_named old.metadata [version] edit.others nofun (by simp [version])
      apart
  rw [Json.finalizers, new.at?_metadata_shown, lookup_metadata_of_makes makes (by decide), listed,
    Option.bind_some, Json.texts?_ofTexts, Option.getD_some]

/-- What an edit that is accepted makes of an edition. -/
def edited (finalizer : String) (edit : FinalizerEdit) (old : Edition) (version : String) :
    Edition :=
  ⟨(edit.request finalizer).outcome .allButStatus old.body, version⟩

/-- An edit of the present version may be accepted. -/
theorem makes_edited
    (finalizer version : String)
    (current : edit.metadata.resourceVersion = some old.version) :
    (edit.request finalizer).Makes edit.address old (edit.edited finalizer old version) where
  writes := .inr (edit.method_request finalizer)
  current stated states := by
    rw [edit.statedVersion?_request, current] at states
    exact (Option.some.inj states).symm
  body := ⟨.allButStatus, edit.part?_request finalizer, rfl⟩

/-- An edit that the server accepts turns one metadata into another, as readers get them. -/
def Turns (finalizer : String) (edit : FinalizerEdit) (before after : Metadata) : Prop :=
  ∃ old new : Edition, old.shown.metadata? = some before ∧
    (edit.request finalizer).Makes edit.address old new ∧ new.shown.metadata? = some after

/-- What the driver calls the node, if that is to be remembered. -/
def nodeId? : FinalizerEdit → Option String
  | .addToAttachment _ nodeId => some nodeId
  | .removeFromAttachment _ | .addToVolume _ | .removeFromVolume _ => none

/-- The metadata after an accepted edit of what was copied. -/
structure Rewrites (finalizer : String) (edit : FinalizerEdit) (metadata : Metadata) : Prop where
  finalizers : metadata.finalizers = edit.outcome finalizer edit.metadata.finalizers
  deletionTime : metadata.deletionTime = edit.metadata.deletionTime
  remembered : metadata.annotation? attachmentNodeIdKey =
    edit.nodeId?.or (edit.metadata.annotation? attachmentNodeIdKey)

theorem Turns.resourceVersion_eq
    {before after : Metadata}
    {version : String}
    (turns : edit.Turns finalizer before after)
    (stated : edit.metadata.resourceVersion = some version) :
    before.resourceVersion = some version := by
  obtain ⟨old, new, read, makes, -⟩ := turns
  have states := (edit.statedVersion?_request finalizer).trans stated
  rw [Edition.resourceVersion_of_shown (old.metadata?_shown ▸ read), makes.current version states]

/-- Readers get what an accepted edit makes of the metadata that were copied. -/
theorem Turns.rewrites
    {metadata : Metadata}
    (turns : edit.Turns finalizer edit.metadata metadata) :
    edit.Rewrites finalizer metadata := by
  obtain ⟨old, new, copied, makes, read⟩ := turns
  refine ⟨?_, ?_, ?_⟩
  · rw [← Edition.finalizers_shown read, finalizers_of_makes makes]
  · have kept : new.shown.at? ["metadata", "deletionTimestamp"] =
        old.shown.at? ["metadata", "deletionTimestamp"] :=
      at?_of_makes makes (by cases edit <;> simp [places] <;> decide)
    rw [new.at?_metadata_shown, old.at?_metadata_shown] at kept
    rw [new.metadata?_shown, Metadata.ofJson?_object_eq_some_iff] at read
    rw [old.metadata?_shown, Metadata.ofJson?_object_eq_some_iff] at copied
    rw [Json.optional_congr _ kept, copied.2.2.2.2] at read
    exact (Option.some.inj read.2.2.2.2).symm
  · have same : new.shown.at? ["metadata", "annotations", attachmentNodeIdKey] =
        (edit.nodeId?.or (edit.metadata.annotation? attachmentNodeIdKey)).map .text := by
      cases edit with
      | addToAttachment copy nodeId =>
        have annotated : Json.lookup "annotations" (Json.mergeMembers old.metadata
            (changes finalizer (.addToAttachment copy nodeId))) =
              some (((Json.lookup "annotations" old.metadata).getD .null).mergePatch
                (.object [(attachmentNodeIdKey, .text nodeId)])) :=
          Json.lookup_mergeMembers_of_named _ [_, _] [] nofun (by simp) nofun
        have noted (old : Json) : Json.lookup attachmentNodeIdKey (Json.mergeMembers old.membersOf
            [(attachmentNodeIdKey, .text nodeId)]) = some (.text nodeId) :=
          Json.lookup_mergeMembers_of_named _ [] [] nofun nofun nofun
        rw [new.at?_metadata, lookup_metadata_of_makes makes (by decide), annotated,
          Option.bind_some, Json.mergePatch_object, Json.at?_cons, Json.membersOf, noted]
        rfl
      | removeFromAttachment | addToVolume | removeFromVolume =>
        rw [at?_of_makes makes (by simp only [places]; decide), Edition.at?_annotation copied]
        rfl
    rw [Edition.at?_annotation read] at same
    exact Option.map_injective (fun _ _ => Json.text.inj) same

end FinalizerEdit

namespace Registry

variable {registry next : Registry} {old : Edition} {edit : FinalizerEdit} {finalizer : String}
  {response : ClusterResponse}

/-- An edit of finalizers takes effect exactly if nobody wrote to the object after it was copied,
and it then changes its finalizer, what the attachment remembers of its node, and nothing else. -/
theorem Reachable.finalizers_after_edit
    (reachable : registry.Reachable)
    (isThere : registry.address = edit.address)
    (known : old ∈ registry.past)
    (copied : edit.IsMadeFrom old)
    (answers : registry.Answers (edit.request finalizer) next response) :
    (registry.present = some old ∧ response.problem? = none ∧
      ∃ new, next = registry.write new ∧ registry.IsFresh new.version ∧
        new.shown.finalizers = edit.outcome finalizer old.shown.finalizers ∧
        ∀ path, (∀ place ∈ edit.places, Apart path place) →
          new.shown.at? path = old.shown.at? path) ∨
    (registry.present ≠ some old ∧ next = registry ∧ response.problem?.isSome = true) := by
  have sound := reachable.sound
  have patches := edit.method_request finalizer
  have read := copied.metadata?
  have version := Edition.resourceVersion_of_shown (old.metadata?_shown ▸ read)
  have stated := (edit.statedVersion?_request finalizer).trans version
  cases answers with
  | shows gets => simp [patches] at gets
  | creates posts => simp [patches] at posts
  | misses needs reaches absent refused =>
    exact .inr ⟨by simp [absent], rfl, by simp [refused]⟩
  | conflicts writes reaches present late refused =>
    refine .inr ⟨?_, rfl, by simp [refused]⟩
    intro isOld
    obtain rfl := Option.some.inj (present.symm.trans isOld)
    refine late.elim (by simp [patches]) fun foreign => foreign ?_
    rintro _ states
    exact (Option.some.inj (stated.symm.trans states)).symm
  | elsewhere astray =>
    rw [isThere, edit.part?_request] at astray
    cases astray
  | @changes edition new present makes fresh =>
    obtain rfl := sound.eq_of_version_eq present known (makes.current _ stated)
    rw [isThere] at makes
    refine .inl ⟨present, rfl, new, rfl, fresh, ?_, fun path => FinalizerEdit.at?_of_makes makes⟩
    rw [FinalizerEdit.finalizers_of_makes makes, Edition.finalizers_shown read]

/-- An attachment that others protect too. -/
def protectedAttachment (annotations : List (String × Json)) : Json :=
  .object [
    ("metadata", .object [
      ("name", .text "va-1"),
      ("finalizers", .ofTexts ["example.com/protect", "example.com/audit"]),
      ("annotations", .object annotations)]),
    ("spec", .object [("attacher", .text "hostpath.csi.k8s.io")])]

/-- The attachment was created, and then somebody noted its owner. -/
def annotatedRegistry : Registry :=
  ((vacant (.ofAttachment "va-1")).write ⟨protectedAttachment [], "41"⟩).write
    ⟨protectedAttachment [("owner", .text "storage")], "57"⟩

/-- The finalizer is added to the attachment as it was cached. -/
def additionTo (annotations : Json.TextMap) (version : String) : FinalizerEdit :=
  let finalizers := ["example.com/protect", "example.com/audit"]
  .addToAttachment ⟨⟨some "va-1", some version, finalizers, annotations, none⟩,
    "hostpath.csi.k8s.io", "", none, false⟩ "node-1-id"

theorem reachable_annotated : annotatedRegistry.Reachable := by
  refine .written (.written (.vacant _) ⟨by decide, nofun⟩) ⟨by decide, ?_⟩
  rintro old known
  obtain rfl := List.mem_singleton.mp known
  decide

/-- The finalizer is added to the present version, and an edit of the one before it is refused. -/
theorem finalizer_added_to_annotated :
    (∃ next response new,
      annotatedRegistry.Answers
        ((additionTo [("owner", "storage")] "57").request "external-attacher/hostpath")
        next response ∧
      next.present = some new ∧
      new.shown.finalizers =
        ["example.com/protect", "example.com/audit", "external-attacher/hostpath"] ∧
      new.shown.at? ["metadata", "annotations", "owner"] = some (.text "storage")) ∧
    ∀ next response,
      annotatedRegistry.Answers ((additionTo [] "41").request "external-attacher/hostpath")
        next response →
      next = annotatedRegistry ∧ response.problem?.isSome = true := by
  constructor
  · obtain ⟨next, response, answers⟩ : ∃ next response, annotatedRegistry.Answers
        ((additionTo [("owner", "storage")] "57").request "external-attacher/hostpath")
        next response :=
      annotatedRegistry.exists_answers _
    have copied : FinalizerEdit.IsMadeFrom
        ⟨protectedAttachment [("owner", .text "storage")], "57"⟩
        (additionTo [("owner", "storage")] "57") := rfl
    obtain ⟨-, -, new, rfl, -, finalizers, kept⟩ | ⟨stale, -⟩ :=
      reachable_annotated.finalizers_after_edit rfl List.mem_cons_self copied answers
    · exact ⟨_, _, new, answers, rfl, finalizers, (kept _ (by decide)).trans rfl⟩
    · exact absurd rfl stale
  · intro next response answers
    have copied : FinalizerEdit.IsMadeFrom ⟨protectedAttachment [], "41"⟩
        (additionTo [] "41") := rfl
    obtain ⟨present, -⟩ | ⟨-, stale⟩ := reachable_annotated.finalizers_after_edit rfl
      (List.mem_cons_of_mem _ List.mem_cons_self) copied answers
    · exact absurd (congrArg (Option.map Edition.version) present) (by decide)
    · exact stale

end Registry

end VolumeAttacher
