import Mathlib.Data.List.Induction
import VolumeAttacher.Proofs.Cluster.Finalizers
import VolumeAttacher.Proofs.Reconciliation.Custody
import VolumeAttacher.Proofs.Reconciliation.Failure
import VolumeAttacher.Reconciliation.Sending

/-!
# Reports of attachments

The transcript of a reconciliation is what it asked, with the answers. Whoever answers, the status
of an attachment is written at most once by its reconciliation, as it is sent to the server it has
its grounds in the transcript before it, and a driver call that failed is always reported.
-/

namespace VolumeAttacher

namespace Dialogue

variable {Question : Type} {Answer : Question → Type} {α : Type}

/-- A question with the answer that it got. -/
abbrev Answered (Question : Type) (Answer : Question → Type) : Type :=
  (question : Question) × Answer question

/-- What is asked after a past, with the answers, and the result. Each answer may go by everything
that was asked and answered before it. -/
def play (respond : List (Answered Question Answer) → (question : Question) → Answer question) :
    List (Answered Question Answer) → Dialogue Question Answer α →
      List (Answered Question Answer) × α
  | _, .done result => ([], result)
  | past, .ask question resume =>
    let answered : Answered Question Answer := ⟨question, respond past question⟩
    let (rest, result) := (resume answered.2).play respond (past ++ [answered])
    (answered :: rest, result)

/-- The protocol whose states are the transcripts. -/
def transcribed (permits : List (Answered Question Answer) → Question → Prop) :
    Protocol Question Answer (List (Answered Question Answer)) where
  permits := permits
  advance past question answer := past ++ [⟨question, answer⟩]

/-- Each question of a transcript was permitted after the part before it. -/
def Permitted
    (permits : List (Answered Question Answer) → Question → Prop)
    (transcript : List (Answered Question Answer)) : Prop :=
  ∀ before entry after, transcript = before ++ entry :: after → permits before entry.1

variable {permits : List (Answered Question Answer) → Question → Prop}

/-- Whoever answers, a dialogue that follows a protocol of transcripts has a transcript in which all
is permitted, and ends with it as it should. -/
theorem Follows.play
    {ends : List (Answered Question Answer) → α → Prop}
    {past : List (Answered Question Answer)}
    {dialogue : Dialogue Question Answer α}
    (follows : dialogue.Follows (transcribed permits) ends past)
    (respond : List (Answered Question Answer) → (question : Question) → Answer question) :
    Permitted (fun before => permits (past ++ before)) (dialogue.play respond past).1 ∧
      ends (past ++ (dialogue.play respond past).1) (dialogue.play respond past).2 := by
  induction dialogue generalizing past with
  | done result =>
    refine ⟨?_, ?_⟩
    · intro before entry after split
      simp [Dialogue.play] at split
    · rw [Dialogue.play, List.append_nil]
      exact follows
  | ask question resume ih =>
    obtain ⟨permitted, goesOn⟩ := follows
    obtain ⟨kept, ended⟩ := ih (respond past question) (goesOn (respond past question))
    refine ⟨?_, ?_⟩
    · intro before entry after split
      obtain ⟨rfl, first⟩ | ⟨between, rfl, later⟩ := List.cons_eq_append_iff.mp split
      · obtain ⟨rfl, -⟩ := List.cons_eq_cons.mp first
        rwa [List.append_nil]
      · simpa [transcribed] using kept between entry after later
    · simpa [transcribed, Dialogue.play] using ended

/-- What is only permitted if it was not asked before is asked at most once. -/
theorem Permitted.countP_le_one
    {transcript : List (Answered Question Answer)}
    {asks : Question → Bool}
    (permitted : Permitted permits transcript)
    (once : ∀ before question, permits before question → asks question = true →
      ∀ entry ∈ before, asks entry.1 = false) :
    transcript.countP (asks ·.1) ≤ 1 := by
  induction transcript using List.reverseRecOn with
  | nil => exact Nat.zero_le 1
  | append_singleton earlier last ih =>
    rw [List.countP_append, List.countP_singleton]
    split
    · next holds =>
      have before := once earlier last.1 (permitted earlier last [] rfl) holds
      have nothing : earlier.countP (asks ·.1) = 0 :=
        List.countP_eq_zero.mpr fun entry asked => by simp [before entry asked]
      omega
    · refine ih fun before entry after split => permitted before entry (after ++ [last]) ?_
      simp [split]

end Dialogue

open Dialogue

/-- The transcript of a reconciliation. -/
abbrev Transcript : Type := List (Answered Request Request.Answer)

namespace Request

/-- The status of an attachment is written. -/
def writesStatus : Request → Bool
  | .patchStatus _ _ => true
  | _ => false

/-- What is sent to the server at a time, for a request, to be merged into the status of the
attachment of a name. -/
def status? (now : Timestamp) (request : Request) (name : String) : Option Json :=
  (request.sent? now).bind fun sent =>
    if sent.method = .patch ∧ sent.part? (.ofAttachment name) = some .status then
      sent.content.member? "status"
    else none

/-- Only a report is sent to the status of an attachment, and as it is written. -/
theorem status?_eq_some_iff
    {now : Timestamp}
    {request : Request}
    {name : String}
    {status : Json} :
    request.status? now name = some status ↔
      ∃ patch, request = .patchStatus name patch ∧ patch.toJson now = status := by
  constructor
  · intro written
    obtain ⟨sent, isSent, merged⟩ := Option.bind_eq_some_iff.mp written
    split_ifs at merged with reaches
    obtain ⟨patches, reaches⟩ := reaches
    cases request with
    | patchStatus target patch =>
      obtain rfl := Option.some.inj isSent
      obtain rfl := ClusterRequest.part?_patchStatus_iff.mp reaches
      obtain rfl : patch.toJson now = status := by
        cases patch <;> exact Option.some.inj merged
      exact ⟨patch, rfl, rfl⟩
    | addAttachmentFinalizer | removeAttachmentFinalizer | addVolumeFinalizer
      | removeVolumeFinalizer =>
      cases isSent
      cases merged
    | getSecret =>
      cases isSent
      cases patches
    | publish | unpublish | record => cases isSent
  · rintro ⟨patch, rfl, rfl⟩
    refine (Option.bind_some ..).trans
      ((if_pos ⟨rfl, ClusterRequest.part?_patchStatus_iff.mpr rfl⟩).trans ?_)
    cases patch <;> rfl

/-- A report is sent at a time to the status of the attachment of a name. -/
def reports (now : Timestamp) (name : String) (request : Request) : Bool :=
  (request.status? now name).isSome

theorem exists_of_reports
    {now : Timestamp}
    {request : Request}
    {name : String}
    (reports : request.reports now name = true) :
    ∃ patch, request = .patchStatus name patch := by
  obtain ⟨status, written⟩ := Option.isSome_iff_exists.mp reports
  obtain ⟨patch, same, -⟩ := status?_eq_some_iff.mp written
  exact ⟨patch, same⟩

/-- The finalizers that are sent to the server at a time, for a request, for the object at an
address. -/
def finalizers? (now : Timestamp) (request : Request) (address : Address) : Option (List String) :=
  (request.sent? now).bind fun sent =>
    if sent.method = .patch ∧ sent.part? address = some .allButStatus then
      (sent.content.at? ["metadata", "finalizers"]).bind Json.texts?
    else none

/-- A request that is sent as an edit of finalizers sends what they are to become. -/
theorem finalizers?_of_sent
    {now : Timestamp}
    {request : Request}
    {finalizer : String}
    (edit : FinalizerEdit)
    (sent : request.sent? now = some (edit.request finalizer)) :
    request.finalizers? now edit.address =
      some (edit.outcome finalizer edit.metadata.finalizers) := by
  rw [finalizers?, sent, Option.bind_some,
    if_pos ⟨edit.method_request finalizer, edit.part?_request finalizer⟩, edit.content_request]
  cases edit <;> exact Json.texts?_ofTexts _

/-- Whenever it is sent, a request adds a finalizer to the object at an address. -/
def Adds (finalizer : String) (address : Address) (request : Request) : Prop :=
  ∀ now, ∃ finalizers ∈ request.finalizers? now address, finalizer ∈ finalizers

/-- Whenever it is sent, a request takes a finalizer from the object at an address. -/
def Drops (finalizer : String) (address : Address) (request : Request) : Prop :=
  ∀ now, ∃ finalizers ∈ request.finalizers? now address, finalizer ∉ finalizers

theorem adds_addAttachmentFinalizer
    (attachment : VolumeAttachment)
    (finalizer nodeId : String) :
    (addAttachmentFinalizer attachment finalizer nodeId).Adds finalizer
      (.ofAttachment attachment.name) :=
  fun _ => ⟨_, finalizers?_of_sent (.addToAttachment attachment nodeId) rfl,
    ClusterClient.mem_withFinalizer attachment.metadata.finalizers finalizer⟩

theorem adds_addVolumeFinalizer (volume : PersistentVolume) (finalizer : String) :
    (addVolumeFinalizer volume finalizer).Adds finalizer (.ofVolume volume.name) :=
  fun _ => ⟨_, finalizers?_of_sent (.addToVolume volume) rfl,
    ClusterClient.mem_withFinalizer volume.metadata.finalizers finalizer⟩

theorem drops_removeAttachmentFinalizer
    (attachment : VolumeAttachment)
    (finalizer : String) :
    (removeAttachmentFinalizer attachment finalizer).Drops finalizer
      (.ofAttachment attachment.name) :=
  fun _ => ⟨_, finalizers?_of_sent (.removeFromAttachment attachment) rfl,
    ClusterClient.not_mem_withoutFinalizer attachment.metadata.finalizers finalizer⟩

/-- What the driver returned for a volume that it published. -/
def returned? : (request : Request) → request.Answer → Option Json.TextMap
  | .publish _ timeout, reply => (reply.result publishOperation timeout).toOption
  | _, _ => none

/-- The fault of a driver call that failed or ran out of time, and the member of the status that is
for it. -/
def failure? : (request : Request) → request.Answer → Option (Fault × String)
  | .publish _ timeout, reply =>
    (Fault.ofResult (reply.result publishOperation timeout)).map fun fault =>
      (fault, "attachError")
  | .unpublish _ timeout, reply =>
    (Fault.ofResult (reply.result unpublishOperation timeout)).map fun fault =>
      (fault, "detachError")
  | _, _ => none

/-- Only driver calls are reported. -/
theorem failure?_eq_none
    {request : Request}
    (other : request.isDriverCall = false)
    (answer : request.Answer) :
    request.failure? answer = none := by
  cases request with
  | publish | unpublish => cases other
  | _ => rfl

end Request

namespace Transcript

variable {attacher : Attacher} {caches : Caches} {name : String} {transcript : Transcript}
  {attachment : VolumeAttachment} {volume : PersistentVolume}

/-- Neither is the driver called nor the status written. -/
def Silent (transcript : Transcript) : Prop :=
  ∀ entry ∈ transcript, entry.1.isDriverCall = false ∧ entry.1.writesStatus = false

/-- The attachment was cached with the finalizer, or was given it. -/
def AttachmentFinalized
    (attacher : Attacher)
    (attachment : VolumeAttachment)
    (transcript : Transcript) : Prop :=
  attachment.metadata.hasFinalizer attacher.finalizer = true ∨
    ∃ nodeId,
      ⟨.addAttachmentFinalizer attachment attacher.finalizer nodeId, .ok ()⟩ ∈ transcript ∧
        (Request.addAttachmentFinalizer attachment attacher.finalizer nodeId).Adds
          attacher.finalizer (.ofAttachment attachment.name)

/-- The volume was cached with the finalizer, or was given it. -/
def VolumeFinalized
    (attacher : Attacher)
    (volume : PersistentVolume)
    (transcript : Transcript) : Prop :=
  volume.metadata.hasFinalizer attacher.finalizer = true ∨
    ⟨.addVolumeFinalizer volume attacher.finalizer, .ok ()⟩ ∈ transcript ∧
      (Request.addVolumeFinalizer volume attacher.finalizer).Adds attacher.finalizer
        (.ofVolume volume.name)

/-- The attachment of a name and its volume have the finalizer. -/
def Prepared
    (attacher : Attacher)
    (caches : Caches)
    (name : String)
    (transcript : Transcript) : Prop :=
  ∃ attachment volume, caches.attachment? name = some attachment ∧
    caches.volumeOf attachment = .ok volume ∧ AttachmentFinalized attacher attachment transcript ∧
    VolumeFinalized attacher volume transcript

/-- What the status says of a fault: when it was reported, and its text. -/
def report (now : Timestamp) (fault : Fault) : Json :=
  .object [("time", .text now.renderSeconds), ("message", .text fault.message)]

/-- The grounds on which the status of the attachment of a name is written at a time. -/
inductive Grounds
    (attacher : Attacher)
    (caches : Caches)
    (name : String)
    (now : Timestamp)
    (transcript : Transcript) : Json → Prop where
  /-- The driver published the volume and returned the metadata. -/
  | published {request : Request} {answer : request.Answer} {metadata : Json.TextMap}
    (called : ⟨request, answer⟩ ∈ transcript)
    (returned : request.returned? answer = some metadata) :
    Grounds attacher caches name now transcript (.object [
      ("attached", .boolean true),
      ("attachmentMetadata", if metadata.isEmpty then .null else .ofTextMap metadata),
      ("attachError", .null)])
  /-- Nothing has to be done for an attachment that is wanted and not attached yet. -/
  | trivial {attachment : VolumeAttachment}
    (strategy : attacher.strategy = .trivial)
    (cached : caches.attachment? name = some attachment)
    (wanted : attachment.metadata.isDeleting = false)
    (detached : attachment.attached = false) :
    Grounds attacher caches name now transcript (.object [
      ("attached", .boolean true), ("attachmentMetadata", .null), ("attachError", .null)])
  /-- The driver withdrew the volume, and then the attachment lost the finalizer. -/
  | withdrawn {attachment : VolumeAttachment} {before after : Transcript}
    {request : Request} {answer : request.Answer}
    (cached : caches.attachment? name = some attachment)
    (removed : transcript =
      before ++ ⟨.removeAttachmentFinalizer attachment attacher.finalizer, .ok ()⟩ :: after)
    (drops : (Request.removeAttachmentFinalizer attachment attacher.finalizer).Drops
      attacher.finalizer (.ofAttachment attachment.name))
    (called : ⟨request, answer⟩ ∈ before)
    (withdraws : request.withdraws answer = true) :
    Grounds attacher caches name now transcript (.object [
      ("attached", .boolean false), ("attachmentMetadata", .null), ("detachError", .null)])
  /-- The driver failed. -/
  | failed {request : Request} {answer : request.Answer} {fault : Fault} {member : String}
    (called : ⟨request, answer⟩ ∈ transcript)
    (failure : request.failure? answer = some (fault, member)) :
    Grounds attacher caches name now transcript (.object [(member, report now fault)])

/-- A driver call that failed is reported in the status, whenever it is sent, and its fault is the
result. -/
def Reported (name : String) (transcript : Transcript) (result : Except Fault Unit) : Prop :=
  ∀ entry ∈ transcript, ∀ fault member, entry.1.failure? entry.2 = some (fault, member) →
    (∀ now, ∃ told ∈ transcript,
      told.1.status? now name = some (.object [(member, report now fault)])) ∧
    result = .error fault

/-- The status of the attachment of a name that a reconciliation wrote is true of what it did. -/
structure Truthful
    (attacher : Attacher)
    (caches : Caches)
    (name : String)
    (transcript : Transcript)
    (result : Except Fault Unit) : Prop where
  /-- The status is written at most once. -/
  writtenOnce : ∀ now, transcript.countP (·.1.reports now name) ≤ 1
  /-- No other status is written, and the part before has the grounds for what is sent. -/
  grounded : ∀ before entry after, transcript = before ++ entry :: after →
    ∀ now target status, entry.1.status? now target = some status →
      target = name ∧ Grounds attacher caches name now before status
  /-- A driver call that failed is reported, and its fault is the result. -/
  reported : Reported name transcript result
  /-- The driver is called at most once. -/
  calledOnce : transcript.countP (·.1.isDriverCall) ≤ 1
  /-- The driver publishes a volume only after both finalizers are there. -/
  prepared : ∀ before request timeout reply after,
    transcript = before ++ ⟨.publish request timeout, reply⟩ :: after →
      Prepared attacher caches name before
  /-- Nothing is asked of the driver if the strategy needs none. -/
  uncalled : attacher.strategy = .trivial → transcript.countP (·.1.isDriverCall) = 0

/-- What may be asked for the attachment of a name after what was asked before. -/
def reporting (attacher : Attacher) (caches : Caches) (name : String) (before : Transcript) :
    Request → Prop
  | .patchStatus target patch =>
    target = name ∧ (∀ entry ∈ before, entry.1.writesStatus = false) ∧
      ∀ now, Grounds attacher caches name now before (patch.toJson now)
  | .publish _ _ =>
    attacher.strategy ≠ .trivial ∧ Silent before ∧ Prepared attacher caches name before
  | .unpublish _ _ => attacher.strategy ≠ .trivial ∧ Silent before
  | .addAttachmentFinalizer _ _ _ | .removeAttachmentFinalizer _ _ => True
  | .addVolumeFinalizer _ _ | .removeVolumeFinalizer _ _ => True
  | .getSecret _ _ | .record _ _ => True

theorem silent_nil : Silent [] :=
  fun _ asked => absurd asked List.not_mem_nil

theorem Silent.snoc
    (silent : Silent transcript)
    (request : Request)
    (answer : request.Answer)
    (call : request.isDriverCall = false)
    (write : request.writesStatus = false) :
    Silent (transcript ++ [⟨request, answer⟩]) := by
  intro entry asked
  obtain earlier | last := List.mem_append.mp asked
  · exact silent entry earlier
  · rw [List.mem_singleton.mp last]
    exact ⟨call, write⟩

/-- Where nothing failed nothing has to be reported. -/
theorem reported_of_unfailed
    {result : Except Fault Unit}
    (unfailed : ∀ entry ∈ transcript, entry.1.failure? entry.2 = none) :
    Reported name transcript result := by
  intro entry asked fault patch failed
  rw [unfailed entry asked] at failed
  cases failed

theorem Silent.unfailed
    (silent : Silent transcript) :
    ∀ entry ∈ transcript, entry.1.failure? entry.2 = none :=
  fun entry asked => Request.failure?_eq_none (silent entry asked).1 entry.2

theorem Silent.unwritten
    (silent : Silent transcript) :
    ∀ entry ∈ transcript, entry.1.writesStatus = false :=
  fun entry asked => (silent entry asked).2

theorem Silent.reported {result : Except Fault Unit} (silent : Silent transcript) :
    Reported name transcript result :=
  reported_of_unfailed silent.unfailed

theorem AttachmentFinalized.append (finalized : AttachmentFinalized attacher attachment transcript)
    (rest : Transcript) : AttachmentFinalized attacher attachment (transcript ++ rest) :=
  finalized.imp_right fun ⟨nodeId, added, adds⟩ =>
    ⟨nodeId, List.mem_append_left rest added, adds⟩

theorem VolumeFinalized.append (finalized : VolumeFinalized attacher volume transcript)
    (rest : Transcript) : VolumeFinalized attacher volume (transcript ++ rest) :=
  finalized.imp_right fun ⟨added, adds⟩ => ⟨List.mem_append_left rest added, adds⟩

/-- The driver may be called to publish a volume. -/
structure Ready
    (attacher : Attacher)
    (attachment : VolumeAttachment)
    (volume : PersistentVolume)
    (transcript : Transcript) : Prop where
  silent : Silent transcript
  finalized : AttachmentFinalized attacher attachment transcript
  volumeFinalized : VolumeFinalized attacher volume transcript

/-- The driver may be called to publish a volume, unless there was a fault. -/
def ReadyUnlessFault
    (attacher : Attacher)
    (attachment : VolumeAttachment)
    (volume : PersistentVolume)
    (transcript : Transcript) : Except Fault Unit → Prop
  | .ok () => Ready attacher attachment volume transcript
  | .error _ => Silent transcript

theorem Silent.getSecret
    (silent : Silent transcript)
    (nameSpace secret : String)
    (answer : Except Fault Json.TextMap) :
    Silent (transcript ++ [⟨.getSecret nameSpace secret, answer⟩]) :=
  silent.snoc (.getSecret nameSpace secret) answer rfl rfl

theorem Ready.getSecret
    (ready : Ready attacher attachment volume transcript)
    (nameSpace secret : String)
    (answer : Except Fault Json.TextMap) :
    Ready attacher attachment volume (transcript ++ [⟨.getSecret nameSpace secret, answer⟩]) :=
  ⟨ready.silent.getSecret nameSpace secret answer, ready.finalized.append _,
    ready.volumeFinalized.append _⟩

end Transcript

namespace Reconciliation

open Transcript

variable {attacher : Attacher} {caches : Caches} {name : String} {before : Transcript}
  {attachment : VolumeAttachment} {volume : PersistentVolume}

/-- Reading secrets keeps what reading a secret keeps. -/
theorem publishSecrets_reporting
    {kept : Transcript → Prop}
    (source : DriverSource)
    (holds : kept before)
    (keeps : ∀ nameSpace secret answer, kept (before ++ [⟨.getSecret nameSpace secret, answer⟩])) :
    Follows (transcribed (reporting attacher caches name)) (fun later _ => kept later) before
      (publishSecrets source) := by
  unfold publishSecrets
  split
  · exact .ask trivial fun answer => keeps _ _ answer
  · exact holds

/-- Both finalizers are there before the driver is called, or there is a fault. -/
theorem ensureFinalizers_reporting (nodeId : String) :
    Follows (transcribed (reporting attacher caches name))
      (ReadyUnlessFault attacher attachment volume) []
      (ensureFinalizers attacher attachment volume nodeId) := by
  have addsVolume {log : Transcript} (silent : Silent log)
      (finalized : AttachmentFinalized attacher attachment log) :
      Follows (transcribed (reporting attacher caches name))
        (ReadyUnlessFault attacher attachment volume) log (do
          ofExcept (← (Request.addVolumeFinalizer volume attacher.finalizer).attempt)) := by
    refine .ask trivial fun answer => ?_
    have later : Silent (log ++ [⟨.addVolumeFinalizer volume attacher.finalizer, answer⟩]) :=
      silent.snoc _ answer rfl rfl
    rw [follows_ofExcept]
    cases answer with
    | ok =>
      have given : VolumeFinalized attacher volume
          (log ++ [⟨.addVolumeFinalizer volume attacher.finalizer, .ok ()⟩]) :=
        .inr ⟨List.mem_concat_self, Request.adds_addVolumeFinalizer volume attacher.finalizer⟩
      exact ⟨later, finalized.append _, given⟩
    | error fault => exact later
  have added (answer : Except Fault Unit) :
      Silent ([] ++ [⟨.addAttachmentFinalizer attachment attacher.finalizer nodeId, answer⟩]) :=
    silent_nil.snoc (.addAttachmentFinalizer attachment attacher.finalizer nodeId) answer rfl rfl
  have given : AttachmentFinalized attacher attachment
      ([] ++ [⟨.addAttachmentFinalizer attachment attacher.finalizer nodeId, .ok ()⟩]) :=
    .inr ⟨nodeId, List.mem_singleton_self _,
      Request.adds_addAttachmentFinalizer attachment attacher.finalizer nodeId⟩
  unfold ensureFinalizers
  split
  · split
    · refine .ask trivial fun answer => .check ?_ fun _ _ => added answer
      rintro _ rfl
      exact addsVolume (added _) given
    · next carries => exact addsVolume silent_nil (.inl (by simpa using carries))
  · next volumeCarries =>
    have volumeFinalized (log : Transcript) : VolumeFinalized attacher volume log :=
      .inl (by simpa using volumeCarries)
    split
    · refine .ask trivial fun answer => .check ?_ fun _ _ => added answer
      rintro _ rfl
      exact ⟨added _, given, volumeFinalized _⟩
    · next carries => exact ⟨silent_nil, .inl (by simpa using carries), volumeFinalized _⟩

/-- What comes after a driver call that failed: it is reported, and its fault is the result. -/
theorem report_reporting
    {call : Answered Request Request.Answer}
    {fault : Fault}
    {member : String}
    {patch : StatusPatch}
    (silent : Silent before)
    (called : call.1.writesStatus = false)
    (failure : call.1.failure? call.2 = some (fault, member))
    (reports : ∀ now, patch.toJson now = .object [(member, report now fault)])
    (operation : Operation) :
    Follows (transcribed (reporting attacher caches name)) (Reported name) (before ++ [call]) (do
      (Request.record operation false).attempt
      let _ ← (Request.patchStatus name patch).attempt
      throw fault) := by
  refine .ask trivial fun _ => .ask ⟨rfl, ?_, fun now => ?_⟩ fun answer => ?_
  · simp only [transcribed, List.forall_mem_append, List.forall_mem_singleton]
    exact ⟨⟨silent.unwritten, called⟩, rfl⟩
  · rw [reports now]
    exact .failed (by simp [transcribed]) failure
  · intro entry asked otherFault otherMember otherFailure
    simp only [transcribed, List.mem_append, List.mem_singleton] at asked
    obtain ((earlier | rfl) | rfl) | rfl := asked
    · rw [silent.unfailed entry earlier] at otherFailure
      cases otherFailure
    · obtain ⟨rfl, rfl⟩ := Option.some.inj (otherFailure.symm.trans failure)
      refine ⟨fun now => ⟨⟨.patchStatus name patch, answer⟩, by simp [transcribed], ?_⟩, rfl⟩
      exact Request.status?_eq_some_iff.mpr ⟨patch, rfl, reports now⟩
    · cases otherFailure
    · cases otherFailure

/-- What comes after the driver published the volume: what it returned is written. -/
theorem published_reporting
    {request : PublishRequest}
    {timeout : Duration}
    {reply : Reply Json.TextMap}
    {metadata : Json.TextMap}
    (silent : Silent before)
    (outcome : reply.result publishOperation timeout = .ok metadata) :
    Follows (transcribed (reporting attacher caches name)) (Reported name)
      (before ++ [⟨.publish request timeout, reply⟩]) (do
        (Request.record .attach true).attempt
        ofExcept (← (Request.patchStatus name (.attached metadata)).attempt)) := by
  have success : (Request.publish request timeout).failure? reply = none := by
    simp [Request.failure?, outcome, Fault.ofResult]
  have returned : (Request.publish request timeout).returned? reply = some metadata := by
    simp [Request.returned?, outcome, Except.toOption]
  refine .ask trivial fun _ => .ask ⟨rfl, ?_, fun _ => .published ?_ returned⟩ fun answer => ?_
  · simp only [transcribed, List.forall_mem_append, List.forall_mem_singleton]
    exact ⟨⟨silent.unwritten, rfl⟩, rfl⟩
  · simp [transcribed]
  · apply reported_of_unfailed
    simp only [transcribed, List.forall_mem_append, List.forall_mem_singleton]
    exact ⟨⟨⟨silent.unfailed, success⟩, rfl⟩, rfl⟩

/-- What comes after the driver withdrew the volume: the finalizer goes, and then the status is
written. -/
theorem withdrawn_reporting
    {request : UnpublishRequest}
    {timeout : Duration}
    {reply : Reply Unit}
    (silent : Silent before)
    (outcome : reply.result unpublishOperation timeout = .ok ())
    (cached : caches.attachment? name = some attachment) :
    Follows (transcribed (reporting attacher caches name)) (Reported name)
      (before ++ [⟨.unpublish request timeout, reply⟩]) (do
        (Request.record .detach true).attempt
        ofExcept (← (Request.removeAttachmentFinalizer attachment attacher.finalizer).attempt)
        let _ ← (Request.patchStatus name .detached).attempt) := by
  have success : (Request.unpublish request timeout).failure? reply = none := by
    simp [Request.failure?, outcome, Fault.ofResult]
  have withdraws : (Request.unpublish request timeout).withdraws reply = true := by
    simp [Request.withdraws, outcome]
  refine .ask trivial fun _ => .ask trivial fun answer => .check ?_ fun _ _ => ?_
  · rintro _ rfl
    have drops := Request.drops_removeAttachmentFinalizer attachment attacher.finalizer
    refine .ask ⟨rfl, ?_, fun _ => .withdrawn cached rfl drops ?_ withdraws⟩ fun _ => ?_
    · simp only [transcribed, List.forall_mem_append, List.forall_mem_singleton]
      exact ⟨⟨⟨silent.unwritten, rfl⟩, rfl⟩, rfl⟩
    · simp [transcribed]
    · apply reported_of_unfailed
      simp only [transcribed, List.forall_mem_append, List.forall_mem_singleton]
      exact ⟨⟨⟨⟨silent.unfailed, success⟩, rfl⟩, rfl⟩, rfl⟩
  · apply reported_of_unfailed
    simp only [transcribed, List.forall_mem_append, List.forall_mem_singleton]
    exact ⟨⟨⟨silent.unfailed, success⟩, rfl⟩, rfl⟩

theorem attach_reporting
    (honorsReadOnly : Bool)
    (active : attacher.strategy ≠ .trivial)
    (cached : caches.attachment? attachment.name = some attachment) :
    Follows (transcribed (reporting attacher caches attachment.name)) (Reported attachment.name) []
      (attach attacher honorsReadOnly caches attachment) := by
  refine .check ?_ fun _ _ => silent_nil.reported
  intro volume found
  refine .check ?_ fun _ _ => silent_nil.reported
  intro source _
  refine .check ?_ fun _ _ => silent_nil.reported
  intro nodeId _
  refine (ensureFinalizers_reporting nodeId).bind ?_ fun _ _ silent => silent.reported
  intro log _ ready
  refine .check ?_ fun _ _ => ready.silent.reported
  intro access _
  refine (publishSecrets_reporting source ready ready.getSecret).bind ?_
    fun _ _ ready => ready.silent.reported
  rintro log secrets ⟨silent, finalized, volumeFinalized⟩
  refine .ask ⟨active, silent, attachment, volume, cached, found, finalized, volumeFinalized⟩ ?_
  intro reply
  cases outcome : Reply.result publishOperation attacher.timeout reply with
  | ok metadata => exact published_reporting silent outcome
  | error fault =>
    have failure : (Request.publish _ attacher.timeout).failure? reply =
        some (fault, "attachError") := by
      simp [Request.failure?, outcome, Fault.ofResult]
    exact report_reporting silent rfl failure (fun _ => rfl) .attach

theorem detach_reporting
    (active : attacher.strategy ≠ .trivial)
    (cached : caches.attachment? attachment.name = some attachment) :
    Follows (transcribed (reporting attacher caches attachment.name)) (Reported attachment.name) []
      (detach attacher caches attachment) := by
  refine .check ?_ fun _ _ => silent_nil.reported
  intro volume _
  refine .check ?_ fun _ _ => silent_nil.reported
  intro source _
  refine .check ?_ fun _ _ => silent_nil.reported
  intro nodeId _
  refine (publishSecrets_reporting source silent_nil silent_nil.getSecret).bind ?_
    fun _ _ silent => silent.reported
  intro log secrets silent
  refine .ask ⟨active, silent⟩ ?_
  intro reply
  cases outcome : Reply.result unpublishOperation attacher.timeout reply with
  | ok done => exact withdrawn_reporting silent outcome cached
  | error fault =>
    have failure : (Request.unpublish _ attacher.timeout).failure? reply =
        some (fault, "detachError") := by
      simp [Request.failure?, outcome, Fault.ofResult]
    exact report_reporting silent rfl failure (fun _ => rfl) .detach

theorem markAttached_reporting
    (idle : attacher.strategy = .trivial)
    (cached : caches.attachment? attachment.name = some attachment) :
    Follows (transcribed (reporting attacher caches attachment.name)) (Reported attachment.name) []
      (markAttached attachment) := by
  unfold markAttached
  split
  · exact silent_nil.reported
  · next missing =>
    simp only [Bool.or_eq_true, not_or, Bool.not_eq_true] at missing
    refine .ask ⟨rfl, silent_nil.unwritten, fun _ => .trivial idle cached missing.1 missing.2⟩ ?_
    intro answer
    apply reported_of_unfailed
    exact List.forall_mem_singleton.mpr rfl

/-- The reconciliation of an attachment writes its status only on the grounds of what it did, and
reports every driver call that failed. -/
theorem attachment_reporting (attacher : Attacher) (caches : Caches) (name : String) :
    Follows (transcribed (reporting attacher caches name)) (Reported name) []
      (Reconciliation.attachment attacher caches name) := by
  unfold Reconciliation.attachment
  split
  · exact silent_nil.reported
  · next found cached =>
    obtain rfl : found.name = name := by simpa using List.find?_some cached
    split
    · split
      · next idle => exact markAttached_reporting idle cached
      · next honorsReadOnly strategy =>
        have active : attacher.strategy ≠ .trivial := by simp [strategy]
        unfold driveAttachment
        dsimp only
        split
        · split
          · exact detach_reporting active cached
          · exact silent_nil.reported
        · split
          · exact attach_reporting honorsReadOnly active cached
          · exact silent_nil.reported
    · exact silent_nil.reported

/-- Whatever the caches hold and whoever answers, the status that the reconciliation of an
attachment writes is true. -/
theorem attachment_truthful
    (attacher : Attacher)
    (caches : Caches)
    (name : String)
    (respond : Transcript → (request : Request) → request.Answer) :
    Truthful attacher caches name
      ((Reconciliation.attachment attacher caches name).run.play respond []).1
      ((Reconciliation.attachment attacher caches name).run.play respond []).2 := by
  obtain ⟨permitted, reported⟩ := (attachment_reporting attacher caches name).play respond
  refine ⟨fun now => permitted.countP_le_one ?_, ?_, reported, permitted.countP_le_one ?_, ?_, ?_⟩
  · intro before request allowed reports entry asked
    obtain ⟨patch, rfl⟩ := Request.exists_of_reports reports
    refine Bool.eq_false_iff.mpr fun reported => ?_
    obtain ⟨earlier, same⟩ := Request.exists_of_reports reported
    have unwritten := allowed.2.1 entry asked
    rw [same] at unwritten
    cases unwritten
  · rintro before ⟨request, answer⟩ after split now target status written
    obtain ⟨patch, rfl, rfl⟩ := Request.status?_eq_some_iff.mp written
    have allowed := permitted before _ after split
    exact ⟨allowed.1, allowed.2.2 now⟩
  · intro before request allowed calls
    cases request with
    | publish => exact fun entry asked => (allowed.2.1 entry asked).1
    | unpublish => exact fun entry asked => (allowed.2 entry asked).1
    | _ => cases calls
  · rintro before request timeout reply after split
    exact (permitted before _ after split).2.2
  · intro idle
    rw [List.countP_eq_zero]
    rintro ⟨request, answer⟩ asked calls
    obtain ⟨before, after, split⟩ := List.append_of_mem asked
    have allowed := permitted before _ after split
    cases request with
    | publish | unpublish => exact allowed.1 idle
    | _ => cases calls

end Reconciliation

end VolumeAttacher
