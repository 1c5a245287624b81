import Mathlib.Data.List.Perm.Basic
import VolumeAttacher.Proofs.Controller.Backoff
import VolumeAttacher.Proofs.Reconciliation.Feed
import VolumeAttacher.Proofs.Reconciliation.Protocol

/-!
# Objects of other drivers

Two caches that agree on what concerns a driver may differ in the attachments and volumes of other
drivers as they like. A reconciliation then asks the same of the cluster and of the driver: either
it goes the same way in both, or it comes upon an object of another driver and asks nothing at all.
-/

namespace VolumeAttacher

namespace Caches

/-- Two caches agree on what concerns an attacher: the attachments for its driver, the volumes of
its driver or with its finalizer, the nodes and the registrations. -/
structure Alike (attacher : Attacher) (first second : Caches) : Prop where
  attachments : ∀ attachment : VolumeAttachment, attachment.isFor attacher.driver = true →
    (attachment ∈ first.attachments ↔ attachment ∈ second.attachments)
  volumes : ∀ volume : PersistentVolume,
    (volume.belongsTo attacher.driver || volume.metadata.hasFinalizer attacher.finalizer) = true →
      (volume ∈ first.volumes ↔ volume ∈ second.volumes)
  nodes : ∀ name, first.node? name = second.node? name
  registrations : ∀ name, first.registration? name = second.registration? name

namespace Alike

variable {attacher : Attacher} {first second : Caches}

theorem symm (alike : Alike attacher first second) : Alike attacher second first where
  attachments attachment own := (alike.attachments attachment own).symm
  volumes volume own := (alike.volumes volume own).symm
  nodes name := (alike.nodes name).symm
  registrations name := (alike.registrations name).symm

/-- An attachment for the driver is found in both caches or in none. -/
theorem attachment?_eq
    {name : String}
    {attachment : VolumeAttachment}
    (alike : Alike attacher first second)
    (distinct : second.Distinct)
    (found : first.attachment? name = some attachment)
    (own : attachment.isFor attacher.driver = true) :
    second.attachment? name = some attachment := by
  have present := List.mem_of_find?_eq_some found
  have named : attachment.name = name := by simpa using List.find?_some found
  exact (Change.find?_eq_some_iff distinct.attachments).mpr
    ⟨(alike.attachments attachment own).mp present, named⟩

/-- A volume of the driver, or with its finalizer, is found in both caches or in none. -/
theorem volume?_eq
    {name : String}
    {volume : PersistentVolume}
    (alike : Alike attacher first second)
    (distinct : second.Distinct)
    (found : first.volume? name = some volume)
    (own : (volume.belongsTo attacher.driver ||
      volume.metadata.hasFinalizer attacher.finalizer) = true) :
    second.volume? name = some volume := by
  have present := List.mem_of_find?_eq_some found
  have named : volume.name = name := by simpa using List.find?_some found
  exact (Change.find?_eq_some_iff distinct.volumes).mpr
    ⟨(alike.volumes volume own).mp present, named⟩

theorem isInUse_eq (alike : Alike attacher first second) (name : String) :
    Reconciliation.isInUse attacher first name = Reconciliation.isInUse attacher second name := by
  have used (caches : Caches) : Reconciliation.isInUse attacher caches name = true ↔
      ∃ attachment, attachment.isFor attacher.driver = true ∧ attachment ∈ caches.attachments ∧
        attachment.volumeName = some name := by
    simp [Reconciliation.isInUse, VolumeAttachment.uses, and_left_comm]
  refine Bool.eq_iff_iff.mpr ?_
  rw [used, used]
  exact exists_congr fun attachment => and_congr_right fun own =>
    and_congr_left' (alike.attachments attachment own)

theorem nodeIdOf_eq (alike : Alike attacher first second) (attachment : VolumeAttachment) :
    Reconciliation.nodeIdOf attacher first attachment =
      Reconciliation.nodeIdOf attacher second attachment := by
  unfold Reconciliation.nodeIdOf
  rw [alike.nodes, alike.registrations]

end Alike

end Caches

/-! ## What is asked -/

namespace Dialogue

variable {Question : Type} {Answer : Question → Type} {State α : Type}

/-- The questions of a dialogue, after those that were asked before it, if every answer follows from
the questions so far. -/
def questions
    (reply : List Question → (question : Question) → Answer question) :
    List Question → Dialogue Question Answer α → List Question
  | _, .done _ => []
  | past, .ask question resume =>
    question :: (resume (reply past question)).questions reply (past ++ [question])

/-- What a protocol permits in every state is permitted of every question. -/
theorem Follows.permits_of_mem
    {protocol : Protocol Question Answer State}
    {ends : State → α → Prop}
    {reply : List Question → (question : Question) → Answer question}
    {dialogue : Dialogue Question Answer α}
    {state : State}
    {past : List Question}
    {question : Question}
    (follows : dialogue.Follows protocol ends state)
    (asked : question ∈ dialogue.questions reply past) :
    ∃ state, protocol.permits state question := by
  induction dialogue generalizing state past with
  | done result => cases asked
  | ask first resume ih =>
    obtain rfl | later := List.mem_cons.mp asked
    · exact ⟨state, follows.1⟩
    · exact ih _ (follows.2 _) later

end Dialogue

namespace Reconciliation

variable {attacher : Attacher} {first second caches : Caches}

/-- Two reconciliations go the same way, or both end without a question. -/
def Agree (one other : Reconciliation Unit) : Prop :=
  one = other ∨ (∃ result, one.run = .done result) ∧ ∃ result, other.run = .done result

theorem Agree.symm {one other : Reconciliation Unit} (agree : Agree one other) :
    Agree other one :=
  agree.imp Eq.symm And.symm

/-- Reconciliations that agree ask the same. -/
theorem Agree.questions_eq
    {one other : Reconciliation Unit}
    (agree : Agree one other)
    (reply : List Request → (request : Request) → request.Answer)
    (past : List Request) :
    one.run.questions reply past = other.run.questions reply past := by
  obtain rfl | ⟨⟨result, ended⟩, result', ended'⟩ := agree
  · rfl
  · rw [ended, ended']
    rfl

/-- Reconciliations that are silent unless something of the driver is cached agree, if they do so
wherever it is. -/
theorem agree_of_own
    (run : Caches → Reconciliation Unit)
    (own : Caches → Prop)
    (alike : Caches.Alike attacher first second)
    (distinct : first.Distinct)
    (distinct' : second.Distinct)
    (follows : ∀ {first second : Caches}, Caches.Alike attacher first second → first.Distinct →
      second.Distinct → own first → Agree (run first) (run second))
    (silent : ∀ {caches : Caches}, ¬ own caches → ∃ result, (run caches).run = .done result) :
    Agree (run first) (run second) := by
  by_cases has : own first
  · exact follows alike distinct distinct' has
  · by_cases has' : own second
    · exact (follows alike.symm distinct' distinct has').symm
    · exact .inr ⟨silent has, silent has'⟩

/-- A source that a driver accepts is one of its own. -/
theorem source?_of_sourceFor
    {volume : PersistentVolume}
    {source : DriverSource}
    (accepted : volume.sourceFor attacher.driver = .ok source) :
    volume.source? = some source ∧ source.driver = attacher.driver.text := by
  unfold PersistentVolume.sourceFor at accepted
  split at accepted
  · cases accepted
  · next other isSource =>
    split at accepted
    · next own =>
      obtain rfl := Except.ok.inj accepted
      exact ⟨isSource, own⟩
    · cases accepted

theorem belongsTo_of_sourceFor
    {volume : PersistentVolume}
    {source : DriverSource}
    (accepted : volume.sourceFor attacher.driver = .ok source) :
    volume.belongsTo attacher.driver = true := by
  obtain ⟨isSource, own⟩ := source?_of_sourceFor accepted
  simp [PersistentVolume.belongsTo, isSource, own]

/-! ## Two caches that agree -/

/-- The attachment refers to a volume of the driver. -/
def HasTarget (attacher : Attacher) (attachment : VolumeAttachment) (caches : Caches) : Prop :=
  ∃ volume source, caches.volumeOf attachment = .ok volume ∧
    volume.sourceFor attacher.driver = .ok source

/-- What depends on a volume of the driver asks nothing without one. -/
theorem silent_of_not_hasTarget
    {attachment : VolumeAttachment}
    {next : PersistentVolume → DriverSource → Reconciliation Unit}
    (astray : ¬ HasTarget attacher attachment caches) :
    ∃ result, ExceptT.run (do
      let volume ← ofExcept (caches.volumeOf attachment)
      let source ← ofExcept (volume.sourceFor attacher.driver)
      next volume source) = .done result := by
  cases found : caches.volumeOf attachment with
  | error fault => exact ⟨.error fault, rfl⟩
  | ok volume =>
    cases accepted : volume.sourceFor attacher.driver with
    | error fault =>
      refine ⟨.error fault, ?_⟩
      change ExceptT.run (ofExcept (volume.sourceFor attacher.driver) >>= next volume) = _
      rw [accepted]
      rfl
    | ok source => exact absurd ⟨volume, source, found, accepted⟩ astray

/-- A volume of the driver that an attachment refers to is the same in both caches. -/
theorem HasTarget.volumeOf_eq
    {attachment : VolumeAttachment}
    (target : HasTarget attacher attachment first)
    (alike : Caches.Alike attacher first second)
    (distinct : second.Distinct) :
    first.volumeOf attachment = second.volumeOf attachment := by
  obtain ⟨volume, source, found, accepted⟩ := target
  obtain ⟨name, refers, cached⟩ := Caches.volumeOf_eq_ok_iff.mp found
  have own := belongsTo_of_sourceFor accepted
  have found' := alike.volume?_eq distinct cached (by simp [own])
  exact found.trans (Caches.volumeOf_eq_ok_iff.mpr ⟨name, refers, found'⟩).symm

theorem attachment_of_own
    {name : String}
    {attachment : VolumeAttachment}
    (found : caches.attachment? name = some attachment)
    (own : attachment.isFor attacher.driver = true) :
    Reconciliation.attachment attacher caches name =
      match attacher.strategy with
      | .trivial => markAttached attachment
      | .driverBacked honorsReadOnly =>
        driveAttachment attacher honorsReadOnly caches attachment := by
  unfold Reconciliation.attachment
  cases attacher.strategy <;> simp only [found, own, if_true]

section Agreement

variable (alike : Caches.Alike attacher first second) (distinct : first.Distinct)
  (distinct' : second.Distinct)

include alike distinct distinct'

theorem attach_agree (honorsReadOnly : Bool) (attachment : VolumeAttachment) :
    Agree (attach attacher honorsReadOnly first attachment)
      (attach attacher honorsReadOnly second attachment) := by
  refine agree_of_own (attach attacher honorsReadOnly · attachment)
    (HasTarget attacher attachment) alike distinct distinct' ?_
    fun astray => silent_of_not_hasTarget astray
  intro first second alike _ distinct target
  refine .inl ?_
  unfold attach
  rw [target.volumeOf_eq alike distinct, alike.nodeIdOf_eq]

theorem detach_agree (attachment : VolumeAttachment) :
    Agree (detach attacher first attachment) (detach attacher second attachment) := by
  refine agree_of_own (detach attacher · attachment)
    (HasTarget attacher attachment) alike distinct distinct' ?_
    fun astray => silent_of_not_hasTarget astray
  intro first second alike _ distinct target
  refine .inl ?_
  unfold detach
  rw [target.volumeOf_eq alike distinct, alike.nodeIdOf_eq]

theorem driveAttachment_agree (honorsReadOnly : Bool) (attachment : VolumeAttachment) :
    Agree (driveAttachment attacher honorsReadOnly first attachment)
      (driveAttachment attacher honorsReadOnly second attachment) := by
  unfold driveAttachment
  dsimp only
  split
  · split
    · exact detach_agree alike distinct distinct' attachment
    · exact .inl rfl
  · split
    · exact attach_agree alike distinct distinct' honorsReadOnly attachment
    · exact .inl rfl

/-- An attachment that is not for the driver counts as none. -/
theorem attachment_agree (name : String) :
    Agree (Reconciliation.attachment attacher first name)
      (Reconciliation.attachment attacher second name) := by
  refine agree_of_own (Reconciliation.attachment attacher · name)
    (fun caches => ∃ attachment, caches.attachment? name = some attachment ∧
      attachment.isFor attacher.driver = true) alike distinct distinct' ?_ ?_
  · rintro first second alike distinct distinct' ⟨attachment, found, own⟩
    rw [attachment_of_own found own,
      attachment_of_own (alike.attachment?_eq distinct' found own) own]
    split
    · exact .inl rfl
    · exact driveAttachment_agree alike distinct distinct' _ attachment
  · intro caches none
    unfold Reconciliation.attachment
    cases found : caches.attachment? name with
    | none => exact ⟨.ok (), rfl⟩
    | some attachment =>
      dsimp only
      rw [if_neg fun own => none ⟨attachment, found, own⟩]
      exact ⟨.ok (), rfl⟩

/-- A volume that does not carry the finalizer counts as none. -/
theorem volume_agree (name : String) :
    Agree (Reconciliation.volume attacher first name)
      (Reconciliation.volume attacher second name) := by
  refine agree_of_own (Reconciliation.volume attacher · name)
    (fun caches => ∃ volume, caches.volume? name = some volume ∧
      volume.metadata.hasFinalizer attacher.finalizer = true) alike distinct distinct' ?_ ?_
  · rintro first second alike - distinct ⟨volume, found, carries⟩
    refine .inl ?_
    have found' := alike.volume?_eq distinct found (by simp [carries])
    unfold Reconciliation.volume
    rw [found, found', alike.isInUse_eq]
  · intro caches none
    unfold Reconciliation.volume
    cases found : caches.volume? name with
    | none => exact ⟨.ok (), rfl⟩
    | some volume =>
      have lacks : volume.metadata.hasFinalizer attacher.finalizer = false := by
        simpa using fun carries => none ⟨volume, found, carries⟩
      simp only [lacks, Bool.and_false, Bool.false_and, Bool.false_eq_true, if_false]
      exact ⟨.ok (), rfl⟩

/-- Every key is reconciled alike. -/
theorem ofTask_agree (task : Task) :
    Agree (ofTask attacher first task) (ofTask attacher second task) := by
  obtain ⟨subject, name⟩ := task
  cases subject with
  | attachment => exact attachment_agree alike distinct distinct' name
  | volume => exact volume_agree alike distinct distinct' name

end Agreement

end Reconciliation

/-! ## The volumes that a driver is told of -/

/-- The handle by which a request tells the driver of a volume. -/
def Request.handle? : Request → Option String
  | .publish request _ => some request.volumeId
  | .unpublish request _ => some request.volumeId
  | _ => none

/-- A handle is that of a cached volume of the driver. -/
def Caches.IsOwnHandle (attacher : Attacher) (caches : Caches) (handle : String) : Prop :=
  ∃ volume ∈ caches.volumes, ∃ source, volume.source? = some source ∧
    source.driver = attacher.driver.text ∧ source.handle = handle

namespace Reconciliation

variable {attacher : Attacher} {first second caches : Caches}

/-- The same requests are permitted in every state. -/
def always (permits : Request → Prop) : Protocol Request Request.Answer Unit where
  permits _ := permits
  advance _ _ _ := ()

/-- The driver is told of its own volumes only. -/
def ownHandles (attacher : Attacher) (caches : Caches) :
    Protocol Request Request.Answer Unit where
  permits _ request := ∀ handle, request.handle? = some handle →
    caches.IsOwnHandle attacher handle
  advance _ _ _ := ()

/-- However it ended. -/
def Whichever {α : Type} (_ : Unit) (_ : Except Fault α) : Prop := True

/-- An attachment refers to a volume of the driver, with this source. -/
structure Targets
    (attacher : Attacher)
    (caches : Caches)
    (attachment : VolumeAttachment)
    (volume : PersistentVolume)
    (source : DriverSource) : Prop where
  found : caches.volumeOf attachment = .ok volume
  accepted : volume.sourceFor attacher.driver = .ok source

section Permission

variable {permits : Request → Prop}
  (silent : ∀ request : Request, request.handle? = none → permits request)

include silent

theorem publishSecrets_follows (source : DriverSource) :
    Follows (always permits) Whichever () (publishSecrets source) := by
  unfold publishSecrets
  split
  · exact .ask (silent _ rfl) fun _ => trivial
  · exact trivial

theorem ensureFinalizers_follows
    (attachment : VolumeAttachment)
    (volume : PersistentVolume)
    (nodeId : String) :
    Follows (always permits) Whichever ()
      (ensureFinalizers attacher attachment volume nodeId) := by
  have addsVolume : Follows (always permits) Whichever () (do
      ofExcept (← (Request.addVolumeFinalizer volume attacher.finalizer).attempt)) :=
    .ask (silent _ rfl) fun _ => trivial
  unfold ensureFinalizers
  split
  · split
    · exact .ask (silent _ rfl) fun _ => .check (fun _ _ => addsVolume) fun _ _ => trivial
    · exact addsVolume
  · split
    · exact .ask (silent _ rfl) fun _ => .check (fun _ _ => trivial) fun _ _ => trivial
    · exact trivial

theorem attach_follows
    {honorsReadOnly : Bool}
    {attachment : VolumeAttachment}
    (publishes : ∀ volume source nodeId access secrets,
      Targets attacher caches attachment volume source →
        permits (.publish
          (PublishRequest.masked ⟨source.handle, nodeId, access, volume.isReadOnly source, secrets,
            source.attributes⟩ honorsReadOnly) attacher.timeout)) :
    Follows (always permits) Whichever ()
      (attach attacher honorsReadOnly caches attachment) := by
  refine .check ?_ fun _ _ => trivial
  intro volume found
  refine .check ?_ fun _ _ => trivial
  intro source accepted
  refine .check ?_ fun _ _ => trivial
  intro nodeId _
  refine (ensureFinalizers_follows silent attachment volume nodeId).bind ?_ fun _ _ _ => trivial
  intro _ _ _
  refine .check ?_ fun _ _ => trivial
  intro access _
  refine (publishSecrets_follows silent source).bind ?_ fun _ _ _ => trivial
  intro _ secrets _
  refine .ask (publishes volume source nodeId access secrets ⟨found, accepted⟩) ?_
  intro reply
  split
  · exact .ask (silent _ rfl) fun _ => .ask (silent _ rfl) fun _ => trivial
  · exact .ask (silent _ rfl) fun _ => .ask (silent _ rfl) fun _ => trivial

theorem detach_follows
    {attachment : VolumeAttachment}
    (unpublishes : ∀ volume source nodeId secrets,
      Targets attacher caches attachment volume source →
        permits (.unpublish ⟨source.handle, nodeId, secrets⟩ attacher.timeout)) :
    Follows (always permits) Whichever () (detach attacher caches attachment) := by
  refine .check ?_ fun _ _ => trivial
  intro volume found
  refine .check ?_ fun _ _ => trivial
  intro source accepted
  refine .check ?_ fun _ _ => trivial
  intro nodeId _
  refine (publishSecrets_follows silent source).bind ?_ fun _ _ _ => trivial
  intro _ secrets _
  refine .ask (unpublishes volume source nodeId secrets ⟨found, accepted⟩) ?_
  intro reply
  split
  · refine .ask (silent _ rfl) fun _ => .ask (silent _ rfl) fun _ => ?_
    exact .check (fun _ _ => .ask (silent _ rfl) fun _ => trivial) fun _ _ => trivial
  · exact .ask (silent _ rfl) fun _ => .ask (silent _ rfl) fun _ => trivial

/-- A reconciliation asks only what is permitted, if every request that tells the driver of no
volume is, and so are the calls for the volume of the attachment that the task is about. -/
theorem ofTask_follows
    {task : Task}
    (publishes : ∀ honorsReadOnly attachment volume source nodeId access secrets,
      attacher.strategy = .driverBacked honorsReadOnly →
      caches.attachment? task.name = some attachment →
      Targets attacher caches attachment volume source →
        permits (.publish
          (PublishRequest.masked ⟨source.handle, nodeId, access, volume.isReadOnly source, secrets,
            source.attributes⟩ honorsReadOnly) attacher.timeout))
    (unpublishes : ∀ honorsReadOnly attachment volume source nodeId secrets,
      attacher.strategy = .driverBacked honorsReadOnly →
      caches.attachment? task.name = some attachment →
      Targets attacher caches attachment volume source →
        permits (.unpublish ⟨source.handle, nodeId, secrets⟩ attacher.timeout)) :
    Follows (always permits) Whichever () (ofTask attacher caches task) := by
  obtain ⟨subject, name⟩ := task
  cases subject with
  | attachment =>
    change Follows _ _ _ (Reconciliation.attachment attacher caches name)
    unfold Reconciliation.attachment
    split
    · exact trivial
    · next attachment cached =>
      split
      · split
        · unfold markAttached
          split
          · exact trivial
          · exact .ask (silent _ rfl) fun _ => trivial
        · next honorsReadOnly backed =>
          unfold driveAttachment
          dsimp only
          split
          · split
            · exact detach_follows silent fun _ _ _ _ => unpublishes _ _ _ _ _ _ backed cached
            · exact trivial
          · split
            · exact attach_follows silent fun _ _ _ _ _ => publishes _ _ _ _ _ _ _ backed cached
            · exact trivial
      · exact trivial
  | volume =>
    change Follows _ _ _ (Reconciliation.volume attacher caches name)
    unfold Reconciliation.volume
    split
    · exact trivial
    · split
      · exact .ask (silent _ rfl) fun _ => trivial
      · exact trivial

end Permission

/-- The source of an attachment's volume names a volume of the driver. -/
theorem Targets.isOwnHandle
    {attachment : VolumeAttachment}
    {volume : PersistentVolume}
    {source : DriverSource}
    (targets : Targets attacher caches attachment volume source) :
    caches.IsOwnHandle attacher source.handle := by
  obtain ⟨name, -, cached⟩ := Caches.volumeOf_eq_ok_iff.mp targets.found
  obtain ⟨isSource, own⟩ := source?_of_sourceFor targets.accepted
  exact ⟨volume, List.mem_of_find?_eq_some cached, source, isSource, own, rfl⟩

/-- No reconciliation tells the driver of a volume that is not its own. -/
theorem ofTask_ownHandles (attacher : Attacher) (caches : Caches) (task : Task) :
    Follows (ownHandles attacher caches) Whichever () (ofTask attacher caches task) := by
  have silent (request : Request) (tells : request.handle? = none) :
      (ownHandles attacher caches).permits () request := by
    intro handle told
    cases tells.symm.trans told
  refine ofTask_follows silent ?_ ?_
  · rintro _ _ _ _ _ _ _ _ _ targets _ ⟨⟩
    exact targets.isOwnHandle
  · rintro _ _ _ _ _ _ _ _ targets _ ⟨⟩
    exact targets.isOwnHandle

end Reconciliation

/-! ## What the caches bring to the queues -/

namespace Routing

variable {attacher : Attacher} {first second : Caches}

theorem isFor_of_mem_ofAttachment
    {attachment : VolumeAttachment}
    {task : Task}
    (brought : task ∈ ofAttachment attacher attachment) :
    attachment.isFor attacher.driver = true := by
  unfold ofAttachment at brought
  split at brought
  · next own => exact own
  · cases brought

theorem own_of_mem_ofVolume
    {volume : PersistentVolume}
    {task : Task}
    (brought : task ∈ ofVolume attacher volume) :
    (volume.belongsTo attacher.driver ||
      volume.metadata.hasFinalizer attacher.finalizer) = true := by
  unfold ofVolume at brought
  split at brought
  · next own => exact own
  · cases brought

/-- Lists without repetition bring the same as far as they agree on what brings anything. -/
theorem flatMap_perm
    {Object : Type}
    [DecidableEq Object]
    {one other : List Object}
    (route : Object → List Task)
    (own : Object → Bool)
    (distinct : one.Nodup)
    (distinct' : other.Nodup)
    (agree : ∀ object, own object = true → (object ∈ one ↔ object ∈ other))
    (brings : ∀ object task, task ∈ route object → own object = true) :
    (one.flatMap route).Perm (other.flatMap route) := by
  have filtered (objects : List Object) :
      objects.flatMap route = (objects.filter own).flatMap route := by
    induction objects with
    | nil => rfl
    | cons object rest ih =>
      cases isOwn : own object with
      | true => simp [isOwn, ih]
      | false =>
        have nothing : route object = [] := by
          refine List.eq_nil_iff_forall_not_mem.mpr fun task brought => ?_
          simp [brings object task brought] at isOwn
        simp [isOwn, nothing, ih]
  rw [filtered one, filtered other]
  refine List.Perm.flatMap_right route ?_
  refine (List.perm_ext_iff_of_nodup (distinct.filter own) (distinct'.filter own)).mpr ?_
  intro object
  rw [List.mem_filter, List.mem_filter]
  exact and_congr_left fun isOwn => agree object isOwn

/-- What the caches bring to the queues is the same, in some order. -/
theorem ofCaches_perm
    (alike : Caches.Alike attacher first second)
    (distinct : first.Distinct)
    (distinct' : second.Distinct) :
    (ofCaches attacher first).Perm (ofCaches attacher second) := by
  refine List.Perm.append ?_ ?_
  · exact flatMap_perm _ (·.isFor attacher.driver) distinct.attachments.of_map
      distinct'.attachments.of_map alike.attachments fun _ _ => isFor_of_mem_ofAttachment
  · exact flatMap_perm _
      (fun volume => volume.belongsTo attacher.driver ||
        volume.metadata.hasFinalizer attacher.finalizer)
      distinct.volumes.of_map distinct'.volumes.of_map alike.volumes fun _ _ => own_of_mem_ofVolume

end Routing

namespace Caches

/-- Objects of other drivers do not matter: with the same replies the same is asked for every key,
the same keys are queued, and the driver is told of its own volumes only. -/
theorem Alike.same_questions
    {attacher : Attacher}
    {first second : Caches}
    (alike : Alike attacher first second)
    (distinct : first.Distinct)
    (distinct' : second.Distinct) :
    (∀ task reply,
      (Reconciliation.ofTask attacher first task).run.questions reply [] =
        (Reconciliation.ofTask attacher second task).run.questions reply []) ∧
      (Routing.ofCaches attacher first).Perm (Routing.ofCaches attacher second) ∧
        ∀ task reply, ∀ request ∈
          (Reconciliation.ofTask attacher first task).run.questions reply [],
            ∀ handle, request.handle? = some handle → first.IsOwnHandle attacher handle := by
  refine ⟨?_, Routing.ofCaches_perm alike distinct distinct', ?_⟩
  · intro task reply
    exact (Reconciliation.ofTask_agree alike distinct distinct' task).questions_eq reply []
  · intro task reply request asked handle told
    obtain ⟨state, permitted⟩ :=
      (Reconciliation.ofTask_ownHandles attacher first task).permits_of_mem asked
    exact permitted handle told

/-- What a controller caches of one attachment and its volume. -/
def secluded : Caches :=
  ⟨[TimedController.boundAttachment "1"], [TimedController.boundVolume], [], []⟩

/-- An attachment of another driver that refers to the same volume. -/
def strayAttachment : VolumeAttachment :=
  { TimedController.boundAttachment "1" with
      metadata := TimedController.heldMetadata "va-2" "1"
      attacher := "other.csi.k8s.io" }

/-- A volume of no driver. -/
def strayVolume : PersistentVolume :=
  ⟨{ Metadata.empty with name := some "pv-2" }, none⟩

/-- The same caches among objects of others. -/
def crowded : Caches :=
  ⟨strayAttachment :: secluded.attachments, secluded.volumes ++ [strayVolume], [], []⟩

theorem distinct_secluded : secluded.Distinct := ⟨by decide, by decide⟩

theorem distinct_crowded : crowded.Distinct := ⟨by decide, by decide⟩

theorem alike_crowded : Alike History.hostPath secluded crowded where
  attachments attachment own := by
    have differs : attachment ≠ strayAttachment := by
      rintro rfl
      exact absurd own (by decide)
    simp [crowded, differs]
  volumes volume own := by
    have differs : volume ≠ strayVolume := by
      rintro rfl
      exact absurd own (by decide)
    simp [crowded, differs]
  nodes _ := rfl
  registrations _ := rfl

/-- Among objects of others the driver is asked the same. -/
theorem same_questions_in_crowded :
    Alike History.hostPath secluded crowded ∧ secluded.Distinct ∧ crowded.Distinct ∧
      (∀ task reply,
        (Reconciliation.ofTask History.hostPath secluded task).run.questions reply [] =
          (Reconciliation.ofTask History.hostPath crowded task).run.questions reply []) ∧
        (Routing.ofCaches History.hostPath secluded).Perm
          (Routing.ofCaches History.hostPath crowded) ∧
          ∀ task reply, ∀ request ∈
            (Reconciliation.ofTask History.hostPath secluded task).run.questions reply [],
              ∀ handle, request.handle? = some handle →
                secluded.IsOwnHandle History.hostPath handle :=
  ⟨alike_crowded, distinct_secluded, distinct_crowded,
    alike_crowded.same_questions distinct_secluded distinct_crowded⟩

end Caches

namespace Controller

variable {start other : Controller} {events told : List ControllerEvent}

/-- What a controller caches is distinct after every event. -/
theorem distinct_step
    (distinct : start.caches.Distinct)
    (event : ControllerEvent) :
    (start.step event).1.caches.Distinct := by
  obtain ⟨term, next⟩ | ⟨-, next⟩ | ⟨change, listed, term, -, next⟩ := start.step_fst event
  · rw [next]
    exact distinct
  · rw [next]
    exact distinct
  · rw [next]
    exact distinct.apply change

/-- What a controller comes to cache is distinct. -/
theorem distinct_run (empty : start.caches = .empty) : (start.run events).caches.Distinct := by
  induction events using List.reverseRecOn with
  | nil => exact empty.symm ▸ Caches.distinct_empty
  | append_singleton events event inductionHypothesis =>
    rw [run_concat]
    exact distinct_step inductionHypothesis event

/-- Whatever two controllers of a driver were told of, they reconcile every name alike if they have
come to cache the same of what concerns the driver. -/
theorem agree_of_alike
    {attacher : Attacher}
    (empty : start.caches = .empty)
    (empty' : other.caches = .empty)
    (alike : Caches.Alike attacher (start.run events).caches (other.run told).caches)
    (task : Task) :
    Reconciliation.Agree (.ofTask attacher (start.run events).caches task)
      (.ofTask attacher (other.run told).caches task) :=
  Reconciliation.ofTask_agree alike (distinct_run empty) (distinct_run empty') task

end Controller

end VolumeAttacher
