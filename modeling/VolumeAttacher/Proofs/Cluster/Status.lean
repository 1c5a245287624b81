import VolumeAttacher.Cluster.Client
import VolumeAttacher.Proofs.Cluster.Finalizers
import VolumeAttacher.Proofs.Json.TextMaps

/-!
# The status after a report

A status patch is made without a look at the status that is stored, and a merge changes a map key by
key. So a report that something is attached records exactly what the driver returned if that names
every key that was recorded before, or names none; other keys stay recorded.
-/

namespace VolumeAttacher

namespace Json

/-- The metadata that is recorded in the status of an attachment, which may be missing. -/
def recorded? (attachment : Json) : Option TextMap :=
  match attachment.at? ["status", "attachmentMetadata"] with
  | none => some []
  | some value => value.textMap?

/-- The keys under which metadata is recorded in the status of an attachment. -/
def recordedKeys (attachment : Json) : List String :=
  (((attachment.at? ["status", "attachmentMetadata"]).getD .null).membersOf).map Prod.fst

/-- The members of the status of an attachment. -/
def statusMembers (attachment : Json) : List (String × Json) :=
  ((lookup "status" attachment.membersOf).getD .null).membersOf

theorem at?_status (attachment : Json) (name : String) :
    attachment.at? ["status", name] = lookup name attachment.statusMembers := by
  rw [at?_cons_cons, at?_cons]
  exact Option.bind_fun_some _

/-- A change of the status is a change of its members. -/
theorem statusMembers_mergePatch (old : Json) (changes : List (String × Json)) :
    (old.mergePatch (.object [("status", .object changes)])).statusMembers =
      mergeMembers old.statusMembers changes := by
  have status : lookup "status" (mergeMembers old.membersOf [("status", .object changes)]) =
      some (((lookup "status" old.membersOf).getD .null).mergePatch (.object changes)) :=
    lookup_mergeMembers_of_named _ [] [] nofun nofun nofun
  rw [statusMembers, mergePatch_object, membersOf, status]
  rfl

/-- An attachment that was reported as attached. -/
theorem recorded?_of_attached
    {metadata : TextMap}
    (sorted : metadata.IsSorted)
    (old : Json)
    (now : Timestamp) :
    let new := old.mergePatch (.object [("status", (StatusPatch.attached metadata).toJson now)])
    new.at? ["status", "attached"] = some (.boolean true) ∧
      new.at? ["status", "attachError"] = none ∧
      (new.recorded? = some metadata ↔
        metadata = [] ∨ ∀ key ∈ old.recordedKeys, key ∈ metadata.map Prod.fst) := by
  intro new
  have status : new.statusMembers = mergeMembers old.statusMembers [
      ("attached", .boolean true),
      ("attachmentMetadata", StatusPatch.metadataJson metadata),
      ("attachError", .null)] := statusMembers_mergePatch old _
  rw [recorded?, recordedKeys, at?_status, at?_status, at?_status, at?_status, status]
  refine ⟨?_, ?_, ?_⟩
  · exact lookup_mergeMembers_of_named _ [] _ nofun nofun (by simp)
  · exact lookup_mergeMembers_of_erased _ [_, _] [] nofun
  · cases metadata with
    | nil =>
      have erased : lookup "attachmentMetadata" (mergeMembers old.statusMembers [
          ("attached", .boolean true), ("attachmentMetadata", .null), ("attachError", .null)]) =
            none :=
        lookup_mergeMembers_of_erased _ [_] [_] (by simp)
      rw [StatusPatch.metadataJson, List.isEmpty_nil, if_pos rfl, erased]
      simp
    | cons entry rest =>
      have merged : lookup "attachmentMetadata" (mergeMembers old.statusMembers [
          ("attached", .boolean true),
          ("attachmentMetadata", .ofTextMap (entry :: rest)),
          ("attachError", .null)]) = some (.object
            (mergeMembers ((lookup "attachmentMetadata" old.statusMembers).getD .null).membersOf
              (textMembers (entry :: rest)))) :=
        lookup_mergeMembers_of_named _ [_] [_] nofun (by simp) (by simp)
      rw [StatusPatch.metadataJson, List.isEmpty_cons, if_neg nofun, merged]
      rw [textMap?_mergeMembers_eq_some_iff sorted, List.forall_mem_map]
      simp

/-- An attachment that was reported as detached. -/
theorem at?_of_detached (old : Json) (now : Timestamp) :
    let new := old.mergePatch (.object [("status", StatusPatch.detached.toJson now)])
    new.at? ["status", "attached"] = some (.boolean false) ∧
      new.at? ["status", "attachmentMetadata"] = none ∧
      new.at? ["status", "detachError"] = none := by
  intro new
  have status : new.statusMembers = mergeMembers old.statusMembers [
      ("attached", .boolean false), ("attachmentMetadata", .null), ("detachError", .null)] :=
    statusMembers_mergePatch old _
  rw [at?_status, at?_status, at?_status, status]
  refine ⟨?_, ?_, ?_⟩
  · exact lookup_mergeMembers_of_named _ [] _ nofun nofun (by simp)
  · exact lookup_mergeMembers_of_erased _ [_] [_] (by simp)
  · exact lookup_mergeMembers_of_erased _ [_, _] [] nofun

end Json

/-- Readers see in the status what was written there. -/
theorem Edition.at?_status_shown (edition : Edition) (name : String) :
    edition.shown.at? ["status", name] = edition.body.at? ["status", name] := by
  refine edition.at?_shown ⟨?_, ?_⟩ <;> simp [Edition.versionPath]

/-- The request that reports a status at a time. -/
def StatusPatch.request (patch : StatusPatch) (name : String) (now : Timestamp) : ClusterRequest :=
  ClusterClient.patchStatus name (patch.toJson now)

/-- A report is sent to the status of its attachment. -/
theorem StatusPatch.part?_request (patch : StatusPatch) (name : String) (now : Timestamp) :
    (patch.request name now).part? (.ofAttachment name) = some .status :=
  ClusterRequest.part?_patchStatus_iff.mpr rfl

namespace Registry

variable {registry next : Registry} {response : ClusterResponse} {name : String} {now : Timestamp}

/-- A report that is accepted is merged into the status of the attachment that is there. -/
theorem Answers.merged
    {patch : StatusPatch}
    (isThere : registry.address = .ofAttachment name)
    (answers : registry.Answers (patch.request name now) next response)
    (accepted : response.problem? = none) :
    ∃ old new, registry.present = some old ∧ next = registry.write new ∧ ∀ member,
      new.shown.at? ["status", member] =
        (old.body.mergePatch (.object [("status", patch.toJson now)])).at? ["status", member] := by
  have reaches : (patch.request name now).part? registry.address = some .status :=
    isThere ▸ patch.part?_request name now
  cases answers with
  | shows gets => cases gets
  | creates posts => cases posts
  | misses needs found absent refused => simp [refused] at accepted
  | conflicts writes found present late refused => simp [refused] at accepted
  | elsewhere astray =>
    rw [reaches] at astray
    cases astray
  | @changes old new present makes fresh =>
    obtain ⟨part, found, body⟩ := makes.body
    obtain rfl := Option.some.inj (reaches.symm.trans found)
    refine ⟨old, new, present, rfl, fun member => ?_⟩
    rw [new.at?_status_shown, body]
    exact Json.at?_withStatusOf_status ..

/-- After an attachment was reported as attached, it is attached without an error, and what is
recorded is what the driver returned, exactly if that names every key that was recorded before or
is empty. After it was reported as detached, nothing is recorded. -/
theorem status_after_report
    {metadata : Json.TextMap}
    (sorted : metadata.IsSorted)
    (registry : Registry)
    (name : String)
    (isThere : registry.address = .ofAttachment name)
    (now : Timestamp) :
    (∀ next response,
      registry.Answers ((StatusPatch.attached metadata).request name now) next response →
      response.problem? = none →
      ∃ old new, registry.present = some old ∧ next.present = some new ∧
        new.shown.at? ["status", "attached"] = some (.boolean true) ∧
        new.shown.at? ["status", "attachError"] = none ∧
        (new.shown.recorded? = some metadata ↔
          metadata = [] ∨ ∀ key ∈ old.shown.recordedKeys, key ∈ metadata.map Prod.fst)) ∧
    (∀ next response,
      registry.Answers (StatusPatch.detached.request name now) next response →
      response.problem? = none →
      ∃ new, next.present = some new ∧
        new.shown.at? ["status", "attached"] = some (.boolean false) ∧
        new.shown.at? ["status", "attachmentMetadata"] = none ∧
        new.shown.at? ["status", "detachError"] = none) := by
  constructor
  · intro next response answers accepted
    obtain ⟨old, new, present, rfl, status⟩ := answers.merged isThere accepted
    refine ⟨old, new, present, rfl, ?_⟩
    simp only [Json.recorded?, Json.recordedKeys, status, old.at?_status_shown]
    exact Json.recorded?_of_attached sorted old.body now
  · intro next response answers accepted
    obtain ⟨old, new, present, rfl, status⟩ := answers.merged isThere accepted
    refine ⟨new, rfl, ?_⟩
    simp only [status]
    exact Json.at?_of_detached old.body now

/-- An attachment whose status says where a device was. -/
def recordedAttachment : Edition where
  body := .object [
    ("metadata", .object [("name", .text "va-1")]),
    ("spec", .object [("attacher", .text "hostpath.csi.k8s.io")]),
    ("status", .object [
      ("attached", .boolean false),
      ("attachmentMetadata", .ofTextMap [("devicePath", "/dev/sdb")]),
      ("attachError", .object [("message", .text "busy")])])]
  version := "41"

/-- The registry that holds it. -/
def recordedRegistry : Registry := (vacant (.ofAttachment "va-1")).write recordedAttachment

theorem recordedRegistry_isFresh : recordedRegistry.IsFresh "57" := by
  refine ⟨by decide, ?_⟩
  rintro old known
  obtain rfl := List.mem_singleton.mp known
  decide

/-- The attachment after a report. -/
def reportedAttachment (patch : StatusPatch) : Edition :=
  ⟨(patch.request "va-1" ⟨0, 0⟩).outcome .status recordedAttachment.body, "57"⟩

/-- A report is accepted. -/
theorem answers_report (patch : StatusPatch) :
    recordedRegistry.Answers (patch.request "va-1" ⟨0, 0⟩)
      (recordedRegistry.write (reportedAttachment patch)) ⟨200, (reportedAttachment patch).shown⟩ := by
  refine .changes rfl ⟨.inr rfl, ?_, .status, patch.part?_request "va-1" _, rfl⟩
    recordedRegistry_isFresh
  intro stated states
  cases patch <;> cases states

/-- What the driver returned is recorded if it says anew where the device is. -/
theorem moved_device_recorded :
    ∃ next response new,
      recordedRegistry.Answers
        ((StatusPatch.attached [("devicePath", "/dev/sdc"), ("lun", "1")]).request "va-1" ⟨0, 0⟩)
        next response ∧
      next.present = some new ∧
      new.shown.at? ["status", "attached"] = some (.boolean true) ∧
      new.shown.recorded? = some [("devicePath", "/dev/sdc"), ("lun", "1")] := by
  have sorted : Json.TextMap.IsSorted [("devicePath", "/dev/sdc"), ("lun", "1")] := by decide
  have answers := answers_report (.attached [("devicePath", "/dev/sdc"), ("lun", "1")])
  obtain ⟨old, new, present, written, attached, -, recorded⟩ :=
    (status_after_report sorted recordedRegistry "va-1" rfl ⟨0, 0⟩).1 _ _ answers rfl
  obtain rfl := Option.some.inj present
  exact ⟨_, _, new, answers, written, attached, recorded.mpr (.inr (by decide))⟩

/-- A device of another key stays recorded beside what the driver returned. -/
theorem stale_device_recorded :
    ∃ next response new,
      recordedRegistry.Answers ((StatusPatch.attached [("lun", "1")]).request "va-1" ⟨0, 0⟩)
        next response ∧
      response.problem? = none ∧ next.present = some new ∧
      new.shown.recorded? = some [("devicePath", "/dev/sdb"), ("lun", "1")] ∧
      new.shown.recorded? ≠ some [("lun", "1")] := by
  refine ⟨_, _, _, answers_report (.attached [("lun", "1")]), rfl, rfl, ?_, ?_⟩
  · decide
  · decide

end Registry

end VolumeAttacher
