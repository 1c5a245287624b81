import VolumeAttacher.Proofs.Controller.Estate

/-!
# No volume is lost

An attachment whose volume the driver was asked to publish keeps that volume on the server, with the
finalizer, if it was taken up in time. In time is while the finalizer is not being taken from the
cached version of the volume, and so whenever that is not being deleted. Taken up late, an attachment
may lose its volume before the driver is asked to publish it: its cached finalizer is trusted although
the removal has been accepted.
-/

namespace VolumeAttacher
namespace Estate

variable {attacher : Attacher} {estate : Estate} {event : ControllerEvent} {name : String}
  {incarnation : Nat}

/-- An attachment comes in time if the cached version of its volume is not being deleted. -/
theorem Sound.not_comesLate
    (sound : estate.Sound attacher)
    (wanted : ∀ basis ∈ estate.found ⟨.attachment, name⟩, ¬ basis.stored.IsDoomed) :
    ¬ estate.ComesLate event name incarnation := by
  rintro ⟨-, -, -, basis, isFound, removing⟩
  obtain ⟨-, cached⟩ := exists_of_found isFound
  have isState : some basis.stored ∈ (estate.shelves basis.volume).states :=
    cached ▸ List.getLast_mem (List.cons_ne_nil _ _)
  rw [Estate.attacher, sound.world.settings] at removing
  exact wanted basis isFound ((sound.guarded _).doomed _ removing _ isState rfl)

/-- The volume of an attachment that the driver was asked to publish, and did not withdraw since, is
stored and carries the finalizer, unless the finalizer was being taken away already when the
attachment was taken up. -/
theorem Reachable.kept_of_outstanding
    (reachable : Reachable attacher estate)
    (isOut : incarnation ∈ (estate.world.sites name).outstanding)
    (inTime : ¬ estate.late name incarnation) :
    ∃ attachment volume kept, (estate.world.sites name).present = some attachment ∧
      attachment.incarnation = incarnation ∧ attachment.object.volumeName = some volume ∧
        (estate.shelves volume).present = some kept ∧
          kept.object.metadata.hasFinalizer attacher.finalizer = true := by
  have sound := reachable.sound
  obtain ⟨volume, kept, ⟨settled, spares⟩, keeps⟩ := sound.housed name incarnation isOut inTime
  obtain ⟨attachment, present, rfl, -⟩ :=
    ((sound.world.guarded name).outstanding incarnation isOut).2
  have lives := settled.lives_of_present present
  obtain ⟨stored, isKept, -, carries⟩ := keeps.resolve_left (spares inTime lives)
  obtain ⟨shown, isShown, -, refers⟩ := lives.present
  obtain rfl : attachment = shown := Option.some.inj (present.symm.trans isShown)
  have uses := VolumeAttachment.volumeFor_eq_some_iff.mp refers
  refine ⟨attachment, volume, stored, present, rfl, ?_, isKept, carries⟩
  simpa [VolumeAttachment.uses] using (Bool.and_eq_true_iff.mp uses).2

/-! ## Events that leave what is cached as it is -/

/-- The estate after an event that leaves what is cached as it is. -/
def still (estate : Estate) (event : ControllerEvent) : Estate :=
  estate.after event (fun name => (estate.world.sites name).older)
    fun name => (estate.shelves name).older

theorem Reachable.still
    (reachable : Reachable attacher estate)
    (confirms : estate.world.Confirms event)
    (confirmsVolumes : estate.Confirms event)
    (spares : ∀ change, event ≠ .changed change) :
    Reachable attacher (estate.still event) := by
  have sound := reachable.sound
  have caches : (estate.world.still event).controller.caches = estate.world.controller.caches :=
    estate.world.controller.caches_step spares
  have mirrors : (estate.world.still event).Mirrors := by
    intro name
    have states := estate.world.states_still event name
    unfold Site.cached
    simp only [caches, states]
    exact sound.world.mirrors name
  have mirrorsVolumes : (estate.still event).Mirrors := by
    intro name
    have caches : (estate.still event).world.controller.caches = _ := caches
    rw [caches]
    exact sound.mirrors name
  obtain ⟨start, begins, run⟩ := reachable
  exact ⟨start, begins, run.tail (.event event _ _ confirms confirmsVolumes
    (fun _ => List.prefix_rfl) (fun _ => List.prefix_rfl) mirrors mirrorsVolumes)⟩

theorem Reachable.attachment
    {next : Site}
    (reachable : Reachable attacher estate)
    (change : (estate.world.sites name).Change attacher.finalizer next)
    (purpose : (estate.world.sites name).KeepsPurpose next) :
    Reachable attacher { estate with world := estate.world.withSite name next } := by
  obtain ⟨start, begins, run⟩ := reachable
  exact ⟨start, begins, run.tail (.attachment name next change purpose)⟩

theorem Reachable.volume
    {next : Site}
    (reachable : Reachable attacher estate)
    (change : (estate.shelves name).Change attacher.finalizer next) :
    Reachable attacher { estate with shelves := Function.update estate.shelves name next } := by
  obtain ⟨start, begins, run⟩ := reachable
  exact ⟨start, begins, run.tail (.volume name next change)⟩

/-- What is stored of a volume. -/
def deposit (volume : PersistentVolume) : Stored :=
  ⟨0, { World.wantedAttachment with metadata := volume.metadata }⟩

/-- A world in which a volume is stored and cached. -/
def furnished (world : World) (volume : PersistentVolume) : Estate where
  world
  shelves name :=
    let present := if name = volume.name then some (deposit volume) else none
    ⟨present, [], present.toList, 1, [], [], []⟩
  basis _ := none
  late _ _ := False

/-- A world in which no job began yet and nothing is outstanding may begin with a volume. -/
theorem begins_furnished
    {world : World}
    {volume : PersistentVolume}
    (reachable : world.Reachable attacher)
    (idle : world.controller.jobs = [])
    (fresh : ∀ name stored, some stored ∉ (world.sites name).older)
    (vacant : ∀ name, (world.sites name).outstanding = [])
    (cached : world.controller.caches.volumes = [volume])
    (numbered : volume.metadata.resourceVersion.isSome = true) :
    (furnished world volume).Begins attacher where
  world := reachable
  idle := idle
  steady name := Site.steady_of_older (fresh name)
  guarded name := by
    have begins : Site.Begins attacher.finalizer
        { (furnished world volume).shelves name with older := [none] } := by
      refine ⟨rfl, rfl, ?_, ?_, rfl, rfl, nofun⟩
      all_goals
        intro stored isPresent
        obtain ⟨-, rfl⟩ : name = volume.name ∧ deposit volume = stored := by
          simpa [furnished] using isPresent
      · exact numbered
      · exact Nat.one_pos
    exact begins.guarded.forget List.nil_prefix
  sent _ := rfl
  vacant _ := rfl
  mirrors name := by
    have same : (furnished world volume).world.controller.caches.volume? name =
        [volume].find? (·.name = name) := congrArg _ cached
    rw [same, List.find?_singleton]
    by_cases about : name = volume.name
    · simp [about, furnished, Site.cached, Site.states, deposit]
    · simp [about, Ne.symm about, furnished, Site.cached, Site.states]
  prompt _ _ := id
  housed name incarnation isOut := by simp [furnished, vacant] at isOut

/-! ## A volume that is kept -/

/-- The volume of an attachment that is not taken up yet. -/
def opening : Estate :=
  furnished (World.taking.dropLast.foldl World.still World.listing) TimedController.boundVolume

theorem reachable_opening : Reachable History.hostPath opening := by
  refine ⟨opening, begins_furnished (World.reachable_listing.foldl_still _ (by simp [World.taking]))
    rfl ?_ ?_ rfl rfl, .refl⟩
  · intro name stored
    change some stored ∉ if name = "va-1" then [] else [none]
    split <;> simp
  · intro name
    change (World.opening.sites name).outstanding = []
    unfold World.opening
    dsimp only
    split <;> rfl

/-- A worker takes up the attachment that is cached, and its write of the finalizer takes effect. -/
def finalized (estate : Estate) : Estate :=
  let asking := estate.still (.take .attachment)
  { asking with
      world := asking.world.withSite "va-1"
        { (asking.world.sites "va-1").store ⟨0, TimedController.boundAttachment "2"⟩ with
          done := World.addition :: (asking.world.sites "va-1").done } }

/-- The server says so, and the driver is asked to publish. -/
def published (estate : Estate) : Estate :=
  estate.finalized.still (.answer TimedController.boundTask TimedController.busyDriver)

/-- The driver is asked to publish the volume of an attachment that is cached without the
finalizer, if the volume is cached with it. -/
theorem Reachable.published
    (reachable : Reachable History.hostPath estate)
    (site : (estate.still (.take .attachment)).world.sites "va-1" =
      ⟨some ⟨0, World.wantedAttachment⟩, [], [⟨0, World.wantedAttachment⟩], 1, [World.addition],
        [], []⟩)
    (held : (estate.still (.take .attachment)).world.held "va-1" =
      some ⟨0, World.wantedAttachment⟩)
    (asked : (estate.still (.take .attachment)).world.controller.asked? TimedController.boundTask =
      some (.addAttachmentFinalizer World.wantedAttachment History.hostPath.finalizer
        "node-1-id")) :
    Reachable History.hostPath estate.published := by
  have asking : Reachable History.hostPath (estate.still (.take .attachment)) :=
    reachable.still trivial trivial (by simp)
  have present := congrArg Site.present site
  have finalized : Reachable History.hostPath estate.finalized := by
    refine asking.attachment ?_ ?_
    · exact World.change_addition (site ▸ .head _) present ⟨"2", rfl, site ▸ by decide⟩
    · intro stored isStored new isNew _ driver
      obtain rfl := Option.some.inj (present.symm.trans isStored)
      obtain rfl := Option.some.inj isNew
      rfl
  refine finalized.still ?_ ?_ (by simp)
  · intro request isAsked _ write isWrite
    obtain rfl := Option.some.inj (asked.symm.trans isAsked)
    have written := congrArg (FinalizerWrite.ofRequest? · (.addAttachmentFinalizer
      World.wantedAttachment History.hostPath.finalizer "node-1-id")) held
    obtain rfl : World.addition = write := Option.some.inj (written.symm.trans isWrite)
    exact .head _
  · intro request isAsked secures
    obtain rfl := Option.some.inj (asked.symm.trans isAsked)
    cases secures

/-- The volume of an attachment that is taken up in time. -/
def publishing : Estate := opening.published

theorem reachable_publishing : Reachable History.hostPath publishing :=
  reachable_opening.published rfl rfl rfl

/-- The volume of an attachment that was taken up in time is kept. -/
theorem kept_in_publishing :
    Reachable History.hostPath publishing ∧ 0 ∈ (publishing.world.sites "va-1").outstanding ∧
      ¬ publishing.late "va-1" 0 ∧
        ∃ attachment volume kept, (publishing.world.sites "va-1").present = some attachment ∧
          attachment.incarnation = 0 ∧ attachment.object.volumeName = some volume ∧
            (publishing.shelves volume).present = some kept ∧
              kept.object.metadata.hasFinalizer History.hostPath.finalizer = true := by
  have isOut : 0 ∈ (publishing.world.sites "va-1").outstanding := .head _
  have inTime : ¬ publishing.late "va-1" 0 := by
    have wanted : ∀ basis ∈ opening.found TimedController.boundTask, ¬ basis.stored.IsDoomed := by
      rintro _ ⟨⟩ ⟨⟩
    rintro ((late | late) | ⟨fresh, -⟩)
    · exact late
    · exact reachable_opening.sound.not_comesLate wanted late
    · exact fresh _ (.head _) rfl
  exact ⟨reachable_publishing, isOut, inTime, reachable_publishing.kept_of_outstanding isOut inTime⟩

/-! ## A volume that is lost -/

/-- The volume while it is being deleted. -/
def doomedVolume : PersistentVolume :=
  { TimedController.boundVolume with
      metadata := { TimedController.boundVolume.metadata with deletionTime := some default } }

/-- The controller before its first term, and no attachment on the server. -/
def vacancy : World where
  controller := History.hostPathController
  sites _ := ⟨none, [none], [], 0, [], [], []⟩
  held _ := none

/-- All feeds have listed their objects, and there is no attachment. -/
def listed : World :=
  List.foldl World.still
    ((vacancy.still .start).after (.changed (.attachments (.listed []))) fun _ => [none])
    [.changed (.volumes (.listed [doomedVolume])), .changed (.nodes (.listed [])),
      .changed (.registrations (.listed [])), .ready]

theorem reachable_listed : World.Reachable History.hostPath listed := by
  have begins : vacancy.Begins History.hostPath :=
    ⟨⟨_, _, _, _, rfl⟩, fun _ =>
      ⟨rfl, rfl, by simp [vacancy], by simp [vacancy], rfl, rfl, List.forall_mem_nil _⟩⟩
  obtain ⟨start, begins, run⟩ : World.Reachable History.hostPath (vacancy.still .start) :=
    World.Reachable.still ⟨vacancy, begins, .refl⟩ trivial (by simp)
  refine World.Reachable.foldl_still ⟨start, begins, run.tail ?_⟩ _ (by simp)
  exact .event _ _ trivial (fun _ => List.prefix_rfl) fun _ => rfl

/-- A volume that is being deleted and that nothing uses. -/
def leaving : Estate := furnished listed doomedVolume

theorem reachable_leaving : Reachable History.hostPath leaving :=
  have fresh (name : String) (stored : Stored) : some stored ∉ (listed.sites name).older := by
    change some stored ∉ [none]
    simp
  ⟨leaving, begins_furnished reachable_listed rfl fresh (fun _ => rfl) rfl rfl, .refl⟩

/-- The write that takes the finalizer away. -/
def removal : FinalizerWrite where
  origin := deposit doomedVolume
  edit := .removeFromVolume doomedVolume
  finalizer := History.hostPath.finalizer
  copied := rfl

/-- The volume as it was when it was deleted. -/
def doomedEdition : Edition where
  body := .object [("metadata", .object [
    ("name", .text "pv-1"),
    ("finalizers", .ofTexts [History.hostPath.finalizer]),
    ("deletionTimestamp", .text "1970-01-01T00:00:00Z")])]
  version := "1"

/-- The volume without the finalizer. -/
def releasedVolume : Stored :=
  deposit { doomedVolume with
    metadata := { doomedVolume.metadata with resourceVersion := some "2", finalizers := [] } }

/-- The server is asked to take the finalizer away, does so, and the volume is gone. -/
def released : Estate :=
  let releasing := leaving.still (.take .volume)
  { releasing with
      shelves := Function.update releasing.shelves "pv-1"
        { (releasing.shelves "pv-1").store releasedVolume with done := [removal] } }

theorem reachable_released : Reachable History.hostPath released := by
  have reachable : Reachable History.hostPath (leaving.still (.take .volume)) :=
    reachable_leaving.still trivial trivial (by simp)
  have turns : removal.edit.Turns removal.finalizer doomedVolume.metadata
      releasedVolume.object.metadata :=
    ⟨doomedEdition, _, rfl, FinalizerEdit.makes_edited removal.finalizer "2" rfl, rfl⟩
  refine reachable.volume ?_
  exact .written removal (deposit doomedVolume) releasedVolume.object (.head _) rfl turns
    ⟨"2", rfl, by decide⟩

/-- An attachment is created. -/
def created : Estate :=
  { released with
      world := released.world.withSite "va-1"
        { (released.world.sites "va-1").store ⟨0, World.wantedAttachment⟩ with births := 1 } }

/-- The feed tells of the attachment, but not yet of the volume. -/
def told : Estate :=
  created.after (.changed (.attachments (.applied World.wantedAttachment)))
    (fun name => if name = "va-1" then [] else [none]) fun name => (created.shelves name).older

theorem reachable_told : Reachable History.hostPath told := by
  have arrived : Reachable History.hostPath created := by
    refine reachable_released.attachment ?_ fun _ gone => absurd gone (Option.not_mem_none _)
    exact .created World.wantedAttachment rfl ⟨"1", rfl, List.forall_mem_nil _⟩
  have vacant {name : String} (other : name ≠ "va-1") :
      created.world.sites name = released.world.sites name :=
    Function.update_of_ne other _ _
  have mirrors : told.world.Mirrors := by
    refine World.mirrors_of_wanted rfl rfl fun name other => ?_
    have states := created.world.states_after
      (.changed (.attachments (.applied World.wantedAttachment)))
      (fun name => if name = "va-1" then [] else [none]) name
    rw [vacant other, if_neg other] at states
    exact states
  have mirrorsVolumes : told.Mirrors := arrived.sound.mirrors
  obtain ⟨start, begins, run⟩ := arrived
  refine ⟨start, begins, run.tail (.event _ _ _ trivial trivial (fun name => ?_)
    (fun _ => List.prefix_rfl) mirrors mirrorsVolumes)⟩
  by_cases same : name = "va-1"
  · simp [same]
  · rw [if_neg same, vacant same]
    exact List.prefix_rfl

/-- The driver is asked to publish. -/
def lost : Estate := told.published

theorem reachable_lost : Reachable History.hostPath lost :=
  reachable_told.published rfl rfl rfl

/-- The driver was asked to publish the volume of an attachment, and the volume is gone. -/
theorem gone_in_lost :
    Reachable History.hostPath lost ∧ 0 ∈ (lost.world.sites "va-1").outstanding ∧
      ∃ attachment, (lost.world.sites "va-1").present = some attachment ∧
        attachment.incarnation = 0 ∧ attachment.object.volumeName = some "pv-1" ∧
          (lost.shelves "pv-1").present = none :=
  ⟨reachable_lost, .head _, _, rfl, rfl, rfl, rfl⟩

end Estate

end VolumeAttacher
