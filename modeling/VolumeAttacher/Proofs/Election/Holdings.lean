import VolumeAttacher.Election.LockObject
import VolumeAttacher.Proofs.Cluster.Address
import VolumeAttacher.Proofs.Election.Encoding
import VolumeAttacher.Proofs.Json.TextMaps

/-!
# What lock objects hold

The object that is written for a record holds that record, whether it is created or written over one
that held another. A configuration map holds the record as it is, a lease with its times cut to
microseconds.
-/

namespace VolumeAttacher

namespace ClusterResponse

variable {α : Type} {response : ClusterResponse}

/-- An answer that is no refusal holds what is read from it. -/
theorem object_of_accepted (read : Json → Option α) (accepted : response.status < 400) :
    response.object read = (read response.body).elim (.error .unreadable) .ok := by
  unfold object problem?
  rw [if_pos accepted]
  dsimp only
  cases read response.body <;> rfl

theorem object?_of_accepted (read : Json → Option α) (accepted : response.status < 400) :
    response.object? read =
      (read response.body).elim (.error .unreadable) (fun value => .ok (some value)) := by
  unfold object?
  rw [object_of_accepted read accepted]
  cases read response.body <;> rfl

/-- A refusal holds nothing. -/
theorem object_of_refused
    {problem : ClusterProblem}
    (read : Json → Option α)
    (refused : response.problem? = some problem) :
    response.object read = .error problem := by
  unfold object
  rw [refused]

end ClusterResponse

/-- What a kind of lock keeps of a record: a lease keeps its times to the microsecond. -/
def LockKind.kept : LockKind → Record → Record
  | .configMaps, record => record
  | .leases, record => record.toMicros

namespace LockObject

/-- Where the object of a lock is kept. -/
def address (lock : LockObject) : Address :=
  match lock.kind with
  | .configMaps => ⟨"/api/v1/namespaces/" ++ lock.nameSpace ++ "/configmaps", lock.name, false⟩
  | .leases =>
    ⟨"/apis/coordination.k8s.io/v1/namespaces/" ++ lock.nameSpace ++ "/leases", lock.name, false⟩

theorem collection_address (lock : LockObject) :
    lock.resource.collection (some lock.nameSpace) = lock.address.collection := by
  have parts (resource : Resource) : resource.collection (some lock.nameSpace) =
      resource.root ++ "/namespaces/" ++ lock.nameSpace ++ ("/" ++ resource.plural) := by
    simp only [Resource.collection, String.append_assoc]
  rw [parts]
  unfold resource address
  cases lock.kind with
  | configMaps =>
    have before : Resource.configMap.root ++ "/namespaces/" = "/api/v1/namespaces/" := by decide
    have after : "/" ++ Resource.configMap.plural = "/configmaps" := by decide
    rw [before, after]
  | leases =>
    have before : Resource.lease.root ++ "/namespaces/" =
        "/apis/coordination.k8s.io/v1/namespaces/" := by
      decide
    have after : "/" ++ Resource.lease.plural = "/leases" := by decide
    rw [before, after]

/-- Every call is a request about the whole object of the lock. -/
theorem part?_request (lock : LockObject) (call : LockCall) :
    (lock.request call).part? lock.address = some .everything := by
  have plain : lock.address.hasStatus = false := by
    unfold address
    cases lock.kind <;> rfl
  have named : lock.address.name = lock.name := by
    unfold address
    cases lock.kind <;> rfl
  have path : lock.path = lock.address.path := by
    rw [LockObject.path, Resource.path, collection_address, Address.path, named]
  have reached {request : ClusterRequest}
      (found : request.part? lock.address =
        some (if lock.address.hasStatus then Part.allButStatus else Part.everything)) :
      request.part? lock.address = some .everything := by
    rwa [plain] at found
  apply reached
  cases call with
  | get => exact ClusterRequest.part?_of_path (by rintro ⟨⟩) path
  | create record =>
    refine ClusterRequest.part?_of_collection rfl lock.collection_address ?_
    rw [named]
    unfold ClusterRequest.namesObject? ClusterRequest.content request created
    cases lock.kind <;> rfl
  | update record version =>
    unfold request
    cases lock.kind with
    | configMaps | leases => exact ClusterRequest.part?_of_path (by rintro ⟨⟩) path

/-- Readers of an object get a record from it. -/
def Holds (lock : LockObject) (edition : Edition) (record : Record) : Prop :=
  lock.found ⟨200, edition.shown⟩ = .ok (some ⟨record, edition.version⟩)

variable {lock : LockObject} {edition old : Edition} {record : Record} {version : String}

theorem leaseOfJson?_shown {metadata : Metadata} :
    leaseOfJson? edition.shown = some (metadata, record) ↔
      (Json.object edition.body.membersOf).isOfKind .lease = true ∧
      ((Json.object edition.body.membersOf).optional "spec" Record.ofLeaseSpec?).map
        (·.getD .empty) = some record ∧
      Metadata.ofJson? (.object edition.shownMetadata) = some metadata := by
  have spec : edition.shown.optional "spec" Record.ofLeaseSpec? =
      (Json.object edition.body.membersOf).optional "spec" Record.ofLeaseSpec? := by
    rw [edition.shown_eq]
    exact Json.optional_congr _ (Json.lookup_setMember_of_ne _ _ (by decide))
  unfold leaseOfJson?
  rw [edition.isOfKind_shown, edition.metadata?_shown, spec]
  cases (Json.object edition.body.membersOf).isOfKind .lease with
  | false => simp
  | true =>
    cases (Json.object edition.body.membersOf).optional "spec" Record.ofLeaseSpec? with
    | none => simp
    | some found =>
      cases Metadata.ofJson? (.object edition.shownMetadata) with
      | none => simp
      | some other => simp [and_comm]

theorem configMapOfJson?_shown :
    configMapOfJson? edition.shown =
      if (Json.object edition.body.membersOf).isOfKind .configMap then
        Metadata.ofJson? (.object edition.shownMetadata) else none := by
  unfold configMapOfJson?
  rw [edition.isOfKind_shown, edition.metadata?_shown]
  cases (Json.object edition.body.membersOf).isOfKind .configMap <;> rfl

theorem holds_leases_iff (isLease : lock.kind = .leases) :
    lock.Holds edition record ↔
      ∃ metadata, leaseOfJson? edition.shown = some (metadata, record) := by
  unfold Holds found
  rw [isLease]
  dsimp only
  rw [ClusterResponse.object?_of_accepted _ (show 200 < 400 by decide)]
  cases read : leaseOfJson? edition.shown with
  | none => simp
  | some pair =>
    obtain ⟨metadata, found⟩ := pair
    have version := Edition.resourceVersion_of_shown (leaseOfJson?_shown.mp read).2.2
    simp [version]

theorem holds_configMaps_iff (isConfigMap : lock.kind = .configMaps) :
    lock.Holds edition record ↔
      ∃ metadata, configMapOfJson? edition.shown = some metadata ∧
        lock.annotated metadata = .ok record := by
  unfold Holds found
  rw [isConfigMap]
  dsimp only
  rw [ClusterResponse.object?_of_accepted _ (show 200 < 400 by decide)]
  cases read : configMapOfJson? edition.shown with
  | none => simp
  | some metadata =>
    have valid := read
    rw [configMapOfJson?_shown] at valid
    have version : metadata.resourceVersion = some edition.version := by
      split at valid
      · exact Edition.resourceVersion_of_shown valid
      · cases valid
    cases found : lock.annotated metadata with
    | error problem => simp [found, Except.map]
    | ok other => simp [found, version, Except.map]

/-- The server's answer to a writing that it accepted is accepted. -/
theorem Holds.written
    {status : Nat}
    (holds : lock.Holds edition record)
    (accepted : status < 400) :
    lock.written ⟨status, edition.shown⟩ = .ok () := by
  unfold LockObject.written
  cases kind : lock.kind with
  | leases =>
    obtain ⟨metadata, read⟩ := (holds_leases_iff kind).mp holds
    dsimp only
    rw [ClusterResponse.object_of_accepted _ accepted, read]
    rfl
  | configMaps =>
    obtain ⟨metadata, read, -⟩ := (holds_configMaps_iff kind).mp holds
    dsimp only
    rw [ClusterResponse.object_of_accepted _ accepted, read]
    rfl

/-! ## What is written for a record -/

theorem annotated_of_annotation?
    {metadata : Metadata}
    (expressible : record.IsExpressible)
    (found : metadata.annotation? leaderKey = some record.toJson.render) :
    lock.annotated metadata = .ok record := by
  unfold annotated
  rw [found]
  dsimp only
  rw [Record.ofText?_render expressible]

/-- A lease that is written holds the record to the microsecond. -/
theorem holds_lease
    {stated : List (String × Json)}
    (isLease : lock.kind = .leases)
    (expressible : record.IsExpressible)
    (states : stated = [] ∨ ∃ old, stated = [("resourceVersion", .text old)]) :
    lock.Holds ⟨.object (lock.header stated ++ [("spec", record.toLeaseSpec)]), version⟩
      record.toMicros := by
  have metadata : Edition.shownMetadata
      ⟨.object (lock.header stated ++ [("spec", record.toLeaseSpec)]), version⟩ =
        [("name", .text lock.name), ("namespace", .text lock.nameSpace),
          ("resourceVersion", .text version)] := by
    obtain rfl | ⟨old, rfl⟩ := states <;> rfl
  rw [holds_leases_iff isLease]
  refine ⟨⟨some lock.name, some version, [], [], none⟩, leaseOfJson?_shown.mpr ⟨?_, ?_, ?_⟩⟩
  · simp [Json.isOfKind, Json.membersOf, header, Json.lookup_cons, resource, isLease]
  · have spec : Json.lookup "spec" (lock.header stated ++ [("spec", record.toLeaseSpec)]) =
        some record.toLeaseSpec := by
      simp [header, Json.lookup_cons]
    have isThere : record.toLeaseSpec ≠ .null := by simp [Record.toLeaseSpec]
    rw [Json.membersOf, Json.optional_of_lookup _ spec isThere,
      Record.ofLeaseSpec?_toLeaseSpec expressible]
    rfl
  · rw [metadata]
    rfl

/-- A configuration map that is created holds the record. -/
theorem holds_created_configMap
    (isConfigMap : lock.kind = .configMaps)
    (expressible : record.IsExpressible) :
    lock.Holds ⟨.object (lock.header [("annotations", annotations record)]), version⟩ record := by
  rw [holds_configMaps_iff isConfigMap]
  refine ⟨⟨some lock.name, some version, [], [(leaderKey, record.toJson.render)], none⟩, ?_,
    annotated_of_annotation? expressible (List.lookup_cons_self)⟩
  rw [configMapOfJson?_shown, if_pos]
  · rfl
  · simp [Json.isOfKind, Json.membersOf, header, Json.lookup_cons, resource, isConfigMap]

/-- What can be read as annotations are texts. -/
theorem text_of_annotations
    {members : List (String × Json)}
    {map : Json.TextMap}
    (read : ((Json.object members).optional "annotations" Json.textMap?).map (·.getD []) =
      some map) :
    ∀ member ∈ ((Json.lookup "annotations" members).getD .null).membersOf,
      ∃ text, member.2 = .text text := by
  cases found : Json.lookup "annotations" members with
  | none => nofun
  | some value =>
    cases value with
    | object annotations =>
      rw [Json.optional_of_lookup _ found nofun] at read
      obtain ⟨_, isMap, -⟩ := Option.map_eq_some_iff.mp read
      obtain ⟨map, isMap, -⟩ := Option.map_eq_some_iff.mp isMap
      exact Json.exists_textMap?_iff.mp ⟨map, isMap⟩
    | null | boolean | whole | decimal | text | array => nofun

/-- What a patch of a record says of the metadata. -/
def metadataChanges (record : Record) (stated : String) : List (String × Json) :=
  [("resourceVersion", .text stated), ("annotations", annotations record)]

/-- What becomes of a configuration map by a patch of its record. -/
def patched (old : Edition) (record : Record) (stated version : String) : Edition where
  body := old.body.mergePatch (.object [("metadata", .object (metadataChanges record stated))])
  version := version

theorem metadata_patched (old : Edition) (record : Record) (stated version : String) :
    (patched old record stated version).metadata =
      Json.mergeMembers old.metadata (metadataChanges record stated) := by
  have isThere : Json.object (metadataChanges record stated) ≠ .null := nofun
  have written : Json.lookup "metadata" (patched old record stated version).body.membersOf =
      some (((Json.lookup "metadata" old.body.membersOf).getD .null).mergePatch
        (.object (metadataChanges record stated))) :=
    Json.lookup_mergeMembers_of_named old.body.membersOf [] [] isThere nofun nofun
  rw [Edition.metadata, written]
  rfl

theorem lookup_patched
    {name : String}
    (old : Edition)
    (record : Record)
    (stated version : String)
    (differ : name ≠ "metadata") :
    Json.lookup name (patched old record stated version).body.membersOf =
      Json.lookup name old.body.membersOf :=
  Json.lookup_mergeMembers_of_unnamed _ (by simpa using differ)

/-- The metadata after a patch of a record. -/
theorem ofJson?_patched
    {metadata : Metadata}
    (record : Record)
    (stated version : String)
    (read : Metadata.ofJson? (.object old.shownMetadata) = some metadata) :
    ∃ map, map.lookup leaderKey = some record.toJson.render ∧
      Metadata.ofJson? (.object (patched old record stated version).shownMetadata) =
        some { metadata with resourceVersion := some version, annotations := map } := by
  obtain ⟨name, -, finalizers, annotated, deletionTime⟩ :=
    Metadata.ofJson?_object_eq_some_iff.mp read
  have unshown : Json.lookup "annotations" old.shownMetadata =
      Json.lookup "annotations" old.metadata :=
    Json.lookup_setMember_of_ne _ _ (by decide)
  have texts := text_of_annotations annotated
  rw [unshown] at texts
  obtain ⟨map, isMap, found⟩ :=
    Json.exists_textMap?_setMember leaderKey record.toJson.render texts
  have written : Json.lookup "annotations" (patched old record stated version).shownMetadata =
      some (.object (Json.setMember leaderKey (.text record.toJson.render)
        ((Json.lookup "annotations" old.metadata).getD .null).membersOf)) := by
    rw [Edition.shownMetadata, Json.lookup_setMember_of_ne _ _ (by decide), metadata_patched]
    exact Json.lookup_mergeMembers_of_named old.metadata [("resourceVersion", .text stated)] []
      (by simp [annotations]) (by simp) (by simp)
  have kept {name : String} (notVersion : name ≠ "resourceVersion")
      (notAnnotations : name ≠ "annotations") :
      Json.lookup name (patched old record stated version).shownMetadata =
        Json.lookup name old.shownMetadata := by
    rw [Edition.shownMetadata, Edition.shownMetadata, Json.lookup_setMember_of_ne _ _ notVersion,
      Json.lookup_setMember_of_ne _ _ notVersion, metadata_patched]
    exact Json.lookup_mergeMembers_of_unnamed _
      (by simp [metadataChanges, notVersion, notAnnotations])
  have isText : Json.text version ≠ .null := by simp
  refine ⟨map, found, Metadata.ofJson?_object_eq_some_iff.mpr ⟨?_, ?_, ?_, ?_, ?_⟩⟩
  · rw [Json.optional_congr _ (kept (by decide) (by decide)), name]
  · exact Json.optional_setMember_self _ _ _ isText
  · rw [Json.optional_congr _ (kept (by decide) (by decide)), finalizers]
  · rw [Json.optional_of_lookup _ written (by simp), isMap]
    rfl
  · rw [Json.optional_congr _ (kept (by decide) (by decide)), deletionTime]

/-- A configuration map that is patched holds the record. -/
theorem holds_patched
    {before : Record}
    (stated version : String)
    (isConfigMap : lock.kind = .configMaps)
    (expressible : record.IsExpressible)
    (holds : lock.Holds old before) :
    lock.Holds (patched old record stated version) record := by
  obtain ⟨metadata, read, -⟩ := (holds_configMaps_iff isConfigMap).mp holds
  rw [configMapOfJson?_shown] at read
  split_ifs at read with isKind
  obtain ⟨map, found, readable⟩ := ofJson?_patched record stated version read
  refine (holds_configMaps_iff isConfigMap).mpr
    ⟨{ metadata with resourceVersion := some version, annotations := map }, ?_,
      annotated_of_annotation? expressible found⟩
  rw [configMapOfJson?_shown, if_pos, readable]
  exact (Json.isOfKind_congr .configMap (lookup_patched _ _ _ _ (by decide))
    (lookup_patched _ _ _ _ (by decide))).trans isKind

/-! ## Lock objects -/

/-- The object that is created for a record holds it. -/
theorem holds_created
    (version : String)
    (expressible : record.IsExpressible) :
    lock.Holds ⟨lock.created record, version⟩ (lock.kind.kept record) := by
  unfold created
  cases kind : lock.kind with
  | leases => exact holds_lease kind expressible (.inl rfl)
  | configMaps => exact holds_created_configMap kind expressible

/-- The object that is written over another one holds the new record. -/
theorem holds_updated
    {before : Record}
    (stated version : String)
    (expressible : record.IsExpressible)
    (holds : lock.Holds old before) :
    lock.Holds ⟨(lock.request (.update record stated)).stated old.body, version⟩
      (lock.kind.kept record) := by
  unfold request
  cases kind : lock.kind with
  | leases =>
    have sent : lock.updated record stated = .object
        (lock.header [("resourceVersion", .text stated)] ++ [("spec", record.toLeaseSpec)]) := by
      simp [updated, kind]
    dsimp only
    rw [sent]
    exact holds_lease kind expressible (.inr ⟨stated, rfl⟩)
  | configMaps =>
    have sent : lock.updated record stated =
        .object [("metadata", .object (metadataChanges record stated))] := by
      simp [updated, metadataChanges, kind]
    dsimp only
    rw [sent]
    exact holds_patched stated version kind expressible holds

/-- A lease without a specification holds a record that says nothing. -/
theorem holds_empty_of_unspecified
    {metadata : Metadata}
    (isLease : lock.kind = .leases)
    (isKind : (Json.object edition.body.membersOf).isOfKind .lease = true)
    (read : Metadata.ofJson? (.object edition.shownMetadata) = some metadata)
    (unspecified : (Json.object edition.body.membersOf).member? "spec" = none) :
    lock.Holds edition .empty := by
  refine (holds_leases_iff isLease).mpr ⟨metadata, leaseOfJson?_shown.mpr ⟨isKind, ?_, read⟩⟩
  unfold Json.optional
  rw [unspecified]
  rfl

/-- A configuration map without the annotation holds a record that says nothing. -/
theorem holds_empty_of_unannotated
    {metadata : Metadata}
    (isConfigMap : lock.kind = .configMaps)
    (isKind : (Json.object edition.body.membersOf).isOfKind .configMap = true)
    (read : Metadata.ofJson? (.object edition.shownMetadata) = some metadata)
    (unannotated : metadata.annotation? leaderKey = none) :
    lock.Holds edition .empty := by
  refine (holds_configMaps_iff isConfigMap).mpr ⟨metadata, ?_, ?_⟩
  · rw [configMapOfJson?_shown, if_pos isKind, read]
  · unfold annotated
    rw [unannotated]

end LockObject

end VolumeAttacher
