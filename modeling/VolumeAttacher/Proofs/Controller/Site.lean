import Mathlib.Data.List.Basic
import VolumeAttacher.Proofs.Cluster.Finalizers
import VolumeAttacher.Proofs.Reconciliation.Custody

/-!
# Attachments on the server

What is and was stored under the name of an attachment, as far back as what is cached, and what a
reconciliation that works on a cached version may rely on. Nobody but the reconciliations changes
the finalizer, a write of finalizers makes of the object what the request for it makes of it, so that
it takes effect only on the version that it was made from, and deletion is not undone.
-/

namespace VolumeAttacher

/-- A version of an attachment. Attachments that are created one after the other under a name have
different incarnations. -/
structure Stored where
  incarnation : Nat
  object : VolumeAttachment
  deriving DecidableEq

/-- A write of finalizers, and the version that it was made from. -/
structure FinalizerWrite where
  origin : Stored
  edit : FinalizerEdit
  finalizer : String
  copied : edit.metadata = origin.object.metadata

namespace FinalizerWrite

/-- What the finalizers are to become. -/
def finalizers (write : FinalizerWrite) : List String :=
  write.edit.outcome write.finalizer write.origin.object.metadata.finalizers

/-- The write of finalizers that a request for a version is. -/
def ofRequest? (held : Option Stored) : Request → Option FinalizerWrite
  | .addAttachmentFinalizer attachment added nodeId =>
    held.map fun stored =>
      ⟨⟨stored.incarnation, attachment⟩, .addToAttachment attachment nodeId, added, rfl⟩
  | .removeAttachmentFinalizer attachment removed =>
    held.map fun stored =>
      ⟨⟨stored.incarnation, attachment⟩, .removeFromAttachment attachment, removed, rfl⟩
  | _ => none

end FinalizerWrite

/-- What is known about a name. -/
structure Site where
  /-- What is stored. -/
  present : Option Stored
  /-- What was stored before, the newest first, as far back as what is cached. -/
  older : List (Option Stored)
  /-- Everything that was ever stored. -/
  versions : List Stored
  /-- How many incarnations there were. -/
  births : Nat
  /-- The writes of finalizers that were sent. -/
  sent : List FinalizerWrite
  /-- The writes that took effect. -/
  done : List FinalizerWrite
  /-- The incarnations that the driver was asked to publish and did not withdraw since. -/
  outstanding : List Nat

/-- The attachment is being deleted. -/
def Stored.IsDoomed (stored : Stored) : Prop := stored.object.metadata.isDeleting = true

/-- The attachment carries a finalizer. -/
def Stored.Carries (stored : Stored) (finalizer : String) : Prop :=
  stored.object.metadata.hasFinalizer finalizer = true

/-- An attachment that was being deleted still is. -/
def DeletionLasts (newer older : Option Stored) : Prop :=
  ∀ new ∈ newer, ∀ old ∈ older, new.incarnation = old.incarnation → old.IsDoomed → new.IsDoomed

namespace Site

/-- What is and was stored, the newest first. -/
def states (site : Site) : List (Option Stored) := site.present :: site.older

/-- What is cached. -/
def cached (site : Site) : Option Stored := site.states.getLast (List.cons_ne_nil _ _)

/-- A version is stored. An attachment that is being deleted is gone without finalizers. -/
def store (site : Site) (stored : Stored) : Site :=
  { site with
      present :=
        if stored.object.metadata.isDeleting && stored.object.metadata.finalizers.isEmpty then none
        else some stored
      older := site.states
      versions := stored :: site.versions }

/-- An object has a version of its own. -/
def IsFresh (site : Site) (object : VolumeAttachment) : Prop :=
  ∃ version, object.metadata.resourceVersion = some version ∧
    ∀ old ∈ site.versions, old.object.metadata.resourceVersion ≠ some version

/-- What happens on the server. -/
inductive Change (finalizer : String) (site : Site) : Site → Prop
  /-- An attachment is created. -/
  | created (object : VolumeAttachment)
      (absent : site.present = none)
      (fresh : site.IsFresh object) :
    Change finalizer site
      { site.store ⟨site.births, object⟩ with births := site.births + 1 }
  /-- An attachment is changed or deleted, by whom it may be. -/
  | edited (stored : Stored) (object : VolumeAttachment)
      (present : site.present = some stored)
      (fresh : site.IsFresh object)
      (lasting : stored.object.metadata.isDeleting = true → object.metadata.isDeleting = true)
      (untouched : object.metadata.hasFinalizer finalizer =
        stored.object.metadata.hasFinalizer finalizer) :
    Change finalizer site (site.store ⟨stored.incarnation, object⟩)
  /-- A write that was sent takes effect, whether or not its sender learns of it. -/
  | written (write : FinalizerWrite) (stored : Stored) (object : VolumeAttachment)
      (sent : write ∈ site.sent)
      (present : site.present = some stored)
      (turns : write.edit.Turns write.finalizer stored.object.metadata object.metadata)
      (fresh : site.IsFresh object) :
    Change finalizer site
      { site.store ⟨stored.incarnation, object⟩ with done := write :: site.done }

variable {finalizer : String} {site next : Site} {new stored : Stored} {incarnation : Nat}

/-- The finalizer is being taken from an incarnation. -/
def Removing (finalizer : String) (site : Site) (incarnation : Nat) : Prop :=
  ∃ write ∈ site.sent, finalizer ∉ write.finalizers ∧ write.origin.incarnation = incarnation

/-- An incarnation is stored and carries the finalizer. -/
def Holds (finalizer : String) (site : Site) (incarnation : Nat) : Prop :=
  ∃ stored, site.present = some stored ∧ stored.incarnation = incarnation ∧
    stored.Carries finalizer

/-- An incarnation carries the finalizer unless that is being taken from it. -/
def Keeps (finalizer : String) (site : Site) (incarnation : Nat) : Prop :=
  site.Removing finalizer incarnation ∨ site.Holds finalizer incarnation

/-- An incarnation was being deleted in all states. -/
def Doomed (site : Site) (incarnation : Nat) : Prop :=
  ∀ stored, some stored ∈ site.states → stored.incarnation = incarnation → stored.IsDoomed

/-- What is outstanding is stored and carries the finalizer, because the finalizer is taken only
from attachments that are being deleted and not outstanding. -/
structure Guarded (finalizer : String) (site : Site) : Prop where
  numbered : ∀ one ∈ site.versions, ∃ version,
    one.object.metadata.resourceVersion = some version ∧
      ∀ two ∈ site.versions, two.object.metadata.resourceVersion = some version → two = one
  known : ∀ stored, some stored ∈ site.states → stored ∈ site.versions
  born : ∀ stored ∈ site.versions, stored.incarnation < site.births
  origin : ∀ write ∈ site.sent, write.origin ∈ site.versions
  doomed : ∀ incarnation, site.Removing finalizer incarnation → site.Doomed incarnation
  lasting : site.states.Pairwise DeletionLasts
  finalized : ∀ stored, some stored ∈ site.states → stored.Carries finalizer →
    site.Keeps finalizer stored.incarnation
  outstanding : ∀ incarnation ∈ site.outstanding,
    ¬ site.Removing finalizer incarnation ∧ site.Holds finalizer incarnation
  done : ∀ write ∈ site.done, finalizer ∈ write.finalizers →
    site.Keeps finalizer write.origin.incarnation

/-- What a reconciliation may rely on that works on a version and achieved something. -/
structure Guards (finalizer : String) (site : Site) (stored : Stored) (custody : Custody) :
    Prop where
  known : stored ∈ site.versions
  quiet : ¬ stored.IsDoomed → ¬ site.Removing finalizer stored.incarnation
  finalized : custody.finalized = true → site.Keeps finalizer stored.incarnation
  doomed : stored.IsDoomed → site.Doomed stored.incarnation
  withdrawn : custody.withdrawn = true →
    stored.IsDoomed ∧ stored.incarnation ∉ site.outstanding

/-- Before anything is cached nothing was sent, and what is outstanding is stored and carries the
finalizer. -/
structure Begins (finalizer : String) (site : Site) : Prop where
  older : site.older = [none]
  versions : site.versions = site.present.toList
  numbered : ∀ stored ∈ site.present, stored.object.metadata.resourceVersion.isSome = true
  born : ∀ stored ∈ site.present, stored.incarnation < site.births
  sent : site.sent = []
  done : site.done = []
  outstanding : ∀ incarnation ∈ site.outstanding, site.Holds finalizer incarnation

theorem Begins.guarded (begins : site.Begins finalizer) : site.Guarded finalizer := by
  have present {stored : Stored} (isState : some stored ∈ site.states) :
      site.present = some stored := by
    simpa [states, begins.older, eq_comm] using isState
  have untouched (incarnation : Nat) : ¬ site.Removing finalizer incarnation := by
    simp [Removing, begins.sent]
  refine ⟨?_, ?_, ?_, ?_, fun incarnation removing => absurd removing (untouched incarnation), ?_,
    fun stored isState carries => .inr ⟨stored, present isState, rfl, carries⟩,
    fun incarnation isOut => ⟨untouched incarnation, begins.outstanding incarnation isOut⟩, ?_⟩
  · intro one isVersion
    rw [begins.versions, Option.mem_toList] at isVersion
    obtain ⟨version, stated⟩ := Option.isSome_iff_exists.mp (begins.numbered one isVersion)
    refine ⟨version, stated, ?_⟩
    intro two isOther _
    rw [begins.versions, Option.mem_toList] at isOther
    exact Option.some.inj (isOther.symm.trans isVersion)
  · intro stored isState
    rw [begins.versions, Option.mem_toList]
    exact present isState
  · intro stored isVersion
    rw [begins.versions, Option.mem_toList] at isVersion
    exact begins.born stored isVersion
  · intro write sent
    simp [begins.sent] at sent
  · rw [states, begins.older]
    apply List.pairwise_pair.mpr
    rintro new - old ⟨⟩
  · intro write isDone
    simp [begins.done] at isDone

/-! ## What happens on the server -/

/-- A version is stored after another. -/
structure Succeeds (finalizer : String) (site : Site) (new : Stored) (next : Site) : Prop where
  present : next.present = none ∨ next.present = some new
  older : next.older = site.states
  versions : next.versions = new :: site.versions
  sent : next.sent = site.sent
  outstanding : next.outstanding = site.outstanding
  fresh : site.IsFresh new.object
  born : new.incarnation < next.births
  births : site.births ≤ next.births
  inherits : new.incarnation < site.births → ∃ stored, site.present = some stored ∧
    stored.incarnation = new.incarnation ∧ (stored.IsDoomed → new.IsDoomed)
  holds : ∀ incarnation, site.Holds finalizer incarnation →
    ¬ site.Removing finalizer incarnation → next.Holds finalizer incarnation
  done : ∀ write ∈ next.done, finalizer ∈ write.finalizers →
    write ∈ site.done ∨ next.Holds finalizer write.origin.incarnation

theorem present_store (site : Site) (stored : Stored) :
    (site.store stored).present = none ∨ (site.store stored).present = some stored := by
  unfold store
  dsimp only
  split
  · exact .inl rfl
  · exact .inr rfl

/-- An attachment that carries a finalizer is not gone. -/
theorem present_store_of_carries (site : Site) (carries : stored.Carries finalizer) :
    (site.store stored).present = some stored := by
  have holds : finalizer ∈ stored.object.metadata.finalizers := of_decide_eq_true carries
  apply if_neg
  intro gone
  obtain ⟨-, empty⟩ := Bool.and_eq_true_iff.mp gone
  rw [List.isEmpty_iff.mp empty] at holds
  exact List.not_mem_nil holds

/-- A write takes effect on the very version that it was made from. -/
theorem Guarded.eq_origin
    {write : FinalizerWrite}
    {metadata : Metadata}
    (guarded : site.Guarded finalizer)
    (sent : write ∈ site.sent)
    (present : site.present = some stored)
    (turns : write.edit.Turns write.finalizer stored.object.metadata metadata) :
    stored = write.origin := by
  obtain ⟨version, stated, unique⟩ := guarded.numbered _ (guarded.origin write sent)
  have known := guarded.known stored (present ▸ List.mem_cons_self)
  exact unique stored known (turns.resourceVersion_eq (write.copied ▸ stated))

/-- A write that takes effect makes of the finalizers what they are to become, and what was being
deleted still is. -/
theorem Guarded.rewrites
    {write : FinalizerWrite}
    {metadata : Metadata}
    (guarded : site.Guarded finalizer)
    (sent : write ∈ site.sent)
    (present : site.present = some stored)
    (turns : write.edit.Turns write.finalizer stored.object.metadata metadata) :
    metadata.finalizers = write.finalizers ∧
      metadata.deletionTime = stored.object.metadata.deletionTime := by
  have origin := guarded.eq_origin sent present turns
  have copied : write.edit.metadata = stored.object.metadata := origin ▸ write.copied
  rw [← copied] at turns ⊢
  refine ⟨turns.rewrites.finalizers.trans ?_, turns.rewrites.deletionTime⟩
  rw [write.copied, FinalizerWrite.finalizers]

theorem Guarded.born_of_removing
    (guarded : site.Guarded finalizer)
    (removing : site.Removing finalizer incarnation) :
    incarnation < site.births := by
  obtain ⟨write, sent, -, rfl⟩ := removing
  exact guarded.born _ (guarded.origin write sent)

/-- Whatever happens on the server stores a version after the present one. -/
theorem Change.succeeds (guarded : site.Guarded finalizer) (change : site.Change finalizer next) :
    ∃ new, site.Succeeds finalizer new next := by
  have born (stored : Stored) (present : site.present = some stored) :
      stored.incarnation < site.births :=
    guarded.born stored (guarded.known stored (present ▸ List.mem_cons_self))
  cases change with
  | created object absent fresh =>
    refine ⟨⟨site.births, object⟩, present_store site _, rfl, rfl, rfl, rfl, fresh,
      Nat.lt_succ_self _, Nat.le_succ _, fun old => absurd old (Nat.lt_irrefl _), ?_,
      fun write isDone _ => .inl isDone⟩
    rintro incarnation ⟨stored, present, -⟩
    simp [absent] at present
  | edited stored object present fresh lasting untouched =>
    refine ⟨⟨stored.incarnation, object⟩, present_store site _, rfl, rfl, rfl, rfl, fresh,
      born stored present, Nat.le_refl _, fun _ => ⟨stored, present, rfl, lasting⟩, ?_,
      fun write isDone _ => .inl isDone⟩
    rintro incarnation ⟨held, same, rfl, carries⟩ -
    obtain rfl := Option.some.inj (present.symm.trans same)
    have carries : Stored.Carries ⟨stored.incarnation, object⟩ finalizer :=
      untouched.trans carries
    exact ⟨_, present_store_of_carries site carries, rfl, carries⟩
  | written write stored object sent present turns fresh =>
    have origin := guarded.eq_origin sent present turns
    obtain ⟨finalizers, deletionTime⟩ := guarded.rewrites sent present turns
    have holds (added : finalizer ∈ write.finalizers) :
        Holds finalizer { site.store ⟨stored.incarnation, object⟩ with
          done := write :: site.done } stored.incarnation := by
      have carries : Stored.Carries ⟨stored.incarnation, object⟩ finalizer :=
        decide_eq_true (finalizers ▸ added)
      exact ⟨_, present_store_of_carries site carries, rfl, carries⟩
    have lasting (isDoomed : stored.IsDoomed) :
        Stored.IsDoomed ⟨stored.incarnation, object⟩ :=
      (congrArg Option.isSome deletionTime).trans isDoomed
    refine ⟨⟨stored.incarnation, object⟩, present_store site _, rfl, rfl, rfl, rfl, fresh,
      born stored present, Nat.le_refl _, fun _ => ⟨stored, present, rfl, lasting⟩, ?_, ?_⟩
    · rintro incarnation ⟨held, same, rfl, -⟩ untouched
      obtain rfl := Option.some.inj (present.symm.trans same)
      refine holds (Decidable.byContradiction fun removed => untouched ?_)
      exact ⟨write, sent, removed, congrArg Stored.incarnation origin.symm⟩
    · intro other isDone added
      obtain rfl | isDone := List.mem_cons.mp isDone
      · exact .inr (origin ▸ holds added)
      · exact .inl isDone

namespace Succeeds

theorem removing_iff (succeeds : site.Succeeds finalizer new next) :
    next.Removing finalizer incarnation ↔ site.Removing finalizer incarnation := by
  unfold Removing
  rw [succeeds.sent]

theorem keeps
    (succeeds : site.Succeeds finalizer new next)
    (keeps : site.Keeps finalizer incarnation) :
    next.Keeps finalizer incarnation := by
  by_cases removing : site.Removing finalizer incarnation
  · exact .inl (succeeds.removing_iff.mpr removing)
  · exact .inr (succeeds.holds incarnation (keeps.resolve_left removing) removing)

/-- A state is the new one or was there before. -/
theorem mem_states
    (succeeds : site.Succeeds finalizer new next)
    (isState : some stored ∈ next.states) :
    next.present = some new ∧ stored = new ∨ some stored ∈ site.states := by
  obtain same | before := List.mem_cons.mp isState
  · obtain gone | isNew := succeeds.present
    · simp [gone] at same
    · rw [isNew] at same
      exact .inl ⟨isNew, Option.some.inj same⟩
  · exact .inr (succeeds.older ▸ before)

theorem doomed
    (succeeds : site.Succeeds finalizer new next)
    (born : incarnation < site.births)
    (doomed : site.Doomed incarnation) :
    next.Doomed incarnation := by
  rintro stored isState rfl
  obtain ⟨-, rfl⟩ | before := succeeds.mem_states isState
  · obtain ⟨old, present, same, lasts⟩ := succeeds.inherits born
    exact lasts (doomed old (present ▸ List.mem_cons_self) same)
  · exact doomed stored before rfl

/-- Deletion lasts when another version is stored. -/
theorem lasting
    (succeeds : site.Succeeds finalizer new next)
    (guarded : site.Guarded finalizer) :
    next.states.Pairwise DeletionLasts := by
  refine List.pairwise_cons.mpr ⟨?_, succeeds.older ▸ guarded.lasting⟩
  rintro older isState newer isPresent old rfl same isDoomed
  rw [succeeds.older] at isState
  obtain gone | isNew := succeeds.present
  · simp [gone] at isPresent
  · obtain rfl : new = newer := by simpa [isNew] using isPresent
    have born := guarded.born old (guarded.known old isState)
    obtain ⟨stored, present, sameStored, lasts⟩ := succeeds.inherits (same ▸ born)
    refine lasts ?_
    obtain first | before := List.mem_cons.mp isState
    · obtain rfl := Option.some.inj (first.trans present)
      exact isDoomed
    · exact (List.pairwise_cons.mp guarded.lasting).1 _ before stored present old rfl
        (sameStored.trans same) isDoomed

/-- The new version has a number of its own. -/
theorem numbered
    (succeeds : site.Succeeds finalizer new next)
    (guarded : site.Guarded finalizer) :
    ∀ one ∈ next.versions, ∃ version, one.object.metadata.resourceVersion = some version ∧
      ∀ two ∈ next.versions, two.object.metadata.resourceVersion = some version → two = one := by
  rw [succeeds.versions]
  obtain ⟨latest, isLatest, unused⟩ := succeeds.fresh
  intro one isVersion
  obtain rfl | before := List.mem_cons.mp isVersion
  · refine ⟨latest, isLatest, ?_⟩
    intro two isOther same
    obtain rfl | before := List.mem_cons.mp isOther
    · rfl
    · exact absurd same (unused two before)
  · obtain ⟨version, stated, unique⟩ := guarded.numbered one before
    refine ⟨version, stated, ?_⟩
    intro two isOther same
    obtain rfl | other := List.mem_cons.mp isOther
    · exact absurd (stated.trans (same.symm.trans isLatest)) (unused one before)
    · exact unique two other same

theorem guarded
    (succeeds : site.Succeeds finalizer new next)
    (guarded : site.Guarded finalizer) :
    next.Guarded finalizer where
  numbered := succeeds.numbered guarded
  known stored isState := by
    rw [succeeds.versions]
    obtain ⟨-, rfl⟩ | before := succeeds.mem_states isState
    · exact List.mem_cons_self
    · exact List.mem_cons_of_mem _ (guarded.known stored before)
  born stored isVersion := by
    rw [succeeds.versions] at isVersion
    obtain rfl | before := List.mem_cons.mp isVersion
    · exact succeeds.born
    · exact Nat.lt_of_lt_of_le (guarded.born stored before) succeeds.births
  origin write sent := by
    rw [succeeds.versions]
    exact List.mem_cons_of_mem _ (guarded.origin write (succeeds.sent ▸ sent))
  doomed incarnation removing := by
    have before := succeeds.removing_iff.mp removing
    exact succeeds.doomed (guarded.born_of_removing before) (guarded.doomed _ before)
  lasting := succeeds.lasting guarded
  finalized stored isState carries := by
    obtain ⟨present, rfl⟩ | before := succeeds.mem_states isState
    · exact .inr ⟨stored, present, rfl, carries⟩
    · exact succeeds.keeps (guarded.finalized stored before carries)
  outstanding incarnation isOut := by
    obtain ⟨untouched, holds⟩ := guarded.outstanding incarnation (succeeds.outstanding ▸ isOut)
    exact ⟨succeeds.removing_iff.not.mpr untouched, succeeds.holds incarnation holds untouched⟩
  done write isDone added := by
    obtain before | holds := succeeds.done write isDone added
    · exact succeeds.keeps (guarded.done write before added)
    · exact .inr holds

theorem guards
    {custody : Custody}
    (succeeds : site.Succeeds finalizer new next)
    (guarded : site.Guarded finalizer)
    (guards : site.Guards finalizer stored custody) :
    next.Guards finalizer stored custody where
  known := succeeds.versions ▸ List.mem_cons_of_mem _ guards.known
  quiet wanted := succeeds.removing_iff.not.mpr (guards.quiet wanted)
  finalized isFinalized := succeeds.keeps (guards.finalized isFinalized)
  doomed isDoomed := succeeds.doomed (guarded.born stored guards.known) (guards.doomed isDoomed)
  withdrawn isWithdrawn := succeeds.outstanding ▸ guards.withdrawn isWithdrawn

end Succeeds

/-! ## What becomes of the caches -/

/-- Older states are forgotten when the cache moves on. -/
def forget (site : Site) (older : List (Option Stored)) : Site := { site with older }

section Forget

variable {older : List (Option Stored)}

theorem mem_states_of_forget
    (forgets : older <+: site.older)
    (isState : some stored ∈ (site.forget older).states) :
    some stored ∈ site.states := by
  obtain same | later := List.mem_cons.mp isState
  · exact same ▸ List.mem_cons_self
  · exact List.mem_cons_of_mem _ (forgets.subset later)

theorem Guarded.forget (guarded : site.Guarded finalizer) (forgets : older <+: site.older) :
    (site.forget older).Guarded finalizer where
  numbered := guarded.numbered
  known stored isState := guarded.known stored (mem_states_of_forget forgets isState)
  born := guarded.born
  origin := guarded.origin
  doomed incarnation removing stored isState :=
    guarded.doomed incarnation removing stored (mem_states_of_forget forgets isState)
  lasting := guarded.lasting.sublist (forgets.sublist.cons_cons _)
  finalized stored isState := guarded.finalized stored (mem_states_of_forget forgets isState)
  outstanding := guarded.outstanding
  done := guarded.done

theorem Guards.forget
    {custody : Custody}
    (guards : site.Guards finalizer stored custody)
    (forgets : older <+: site.older) :
    (site.forget older).Guards finalizer stored custody where
  known := guards.known
  quiet := guards.quiet
  finalized := guards.finalized
  doomed isDoomed other isState :=
    guards.doomed isDoomed other (mem_states_of_forget forgets isState)
  withdrawn := guards.withdrawn

end Forget

/-- What is cached was being deleted only if it was so ever since. -/
theorem Guarded.doomed_of_cached
    (guarded : site.Guarded finalizer)
    (cached : site.cached = some stored)
    (isDoomed : stored.IsDoomed) :
    site.Doomed stored.incarnation := by
  rintro later isState same
  have split := List.dropLast_append_getLast (List.cons_ne_nil site.present site.older)
  have lasting := guarded.lasting
  unfold Site.cached at cached
  unfold states at lasting cached isState
  rw [← split, cached] at lasting isState
  obtain before | last := List.mem_append.mp isState
  · exact (List.pairwise_append.mp lasting).2.2 _ before _ List.mem_cons_self later rfl stored rfl
      same isDoomed
  · obtain rfl := Option.some.inj (List.mem_singleton.mp last)
    exact isDoomed

/-- A reconciliation that begins works on what is cached. -/
theorem Guarded.guards_of_cached
    (guarded : site.Guarded finalizer)
    (cached : site.cached = some stored) :
    site.Guards finalizer stored
      ⟨stored.object.metadata.hasFinalizer finalizer, false⟩ := by
  have isState : some stored ∈ site.states :=
    cached ▸ List.getLast_mem (List.cons_ne_nil site.present site.older)
  refine ⟨guarded.known stored isState, ?_,
    fun carries => guarded.finalized stored isState carries,
    fun isDoomed => guarded.doomed_of_cached cached isDoomed, nofun⟩
  intro wanted removing
  exact wanted (guarded.doomed _ removing stored isState rfl)

theorem Succeeds.cached_eq (succeeds : site.Succeeds finalizer new next) :
    next.cached = site.cached := by
  unfold cached states
  simp only [succeeds.older]
  exact List.getLast_cons (List.cons_ne_nil _ _)

/-! ## What reconciliations do -/

/-- The incarnation that a request for a version has published. -/
def published (held : Option Stored) : Request → List Nat
  | .publish _ _ => (held.map Stored.incarnation).toList
  | _ => []

/-- A reconciliation that works on a version makes a request: a write of finalizers is sent, and a
volume that is published is outstanding. -/
def ask (site : Site) (held : Option Stored) (request : Request) : Site :=
  { site with
      sent := (FinalizerWrite.ofRequest? held request).toList ++ site.sent
      outstanding := published held request ++ site.outstanding }

/-- A reconciliation that works on a version is answered: what the driver withdrew is not
outstanding. -/
def hear
    (site : Site)
    (held : Option Stored)
    (request : Request)
    (answer : request.Answer) : Site :=
  { site with
      outstanding := site.outstanding.filter fun incarnation =>
        !(request.withdraws answer && held.any (·.incarnation = incarnation)) }

section Ask

variable {custody : Custody} {write : FinalizerWrite}

theorem removing_send :
    Removing finalizer { site with sent := write :: site.sent } incarnation ↔
      finalizer ∉ write.finalizers ∧ write.origin.incarnation = incarnation ∨
        site.Removing finalizer incarnation := by
  simp [Removing]

theorem Keeps.send (keeps : site.Keeps finalizer incarnation) :
    Keeps finalizer { site with sent := write :: site.sent } incarnation :=
  keeps.imp (fun removing => removing_send.mpr (.inr removing)) id

/-- A write may be sent that does not take the finalizer from what is wanted or outstanding. -/
theorem Guarded.send
    (guarded : site.Guarded finalizer)
    (known : write.origin ∈ site.versions)
    (spares : finalizer ∉ write.finalizers → site.Doomed write.origin.incarnation ∧
      write.origin.incarnation ∉ site.outstanding) :
    Guarded finalizer { site with sent := write :: site.sent } where
  numbered := guarded.numbered
  known := guarded.known
  born := guarded.born
  origin other sent := by
    obtain rfl | sent := List.mem_cons.mp sent
    · exact known
    · exact guarded.origin other sent
  doomed incarnation removing := by
    obtain ⟨removes, rfl⟩ | removing := removing_send.mp removing
    · exact (spares removes).1
    · exact guarded.doomed incarnation removing
  lasting := guarded.lasting
  finalized stored isState carries := (guarded.finalized stored isState carries).send
  outstanding incarnation isOut := by
    obtain ⟨untouched, holds⟩ := guarded.outstanding incarnation isOut
    refine ⟨?_, holds⟩
    intro removing
    obtain ⟨removes, rfl⟩ | removing := removing_send.mp removing
    · exact (spares removes).2 isOut
    · exact untouched removing
  done other isDone added := (guarded.done other isDone added).send

theorem Guards.send
    (guards : site.Guards finalizer stored custody)
    (spares : finalizer ∉ write.finalizers → stored.IsDoomed) :
    Guards finalizer { site with sent := write :: site.sent } stored custody where
  known := guards.known
  quiet wanted removing := by
    obtain ⟨removes, -⟩ | removing := removing_send.mp removing
    · exact wanted (spares removes)
    · exact guards.quiet wanted removing
  finalized isFinalized := (guards.finalized isFinalized).send
  doomed := guards.doomed
  withdrawn := guards.withdrawn

/-- What is wanted and carries the finalizer may be published. -/
theorem Guarded.publish
    (guarded : site.Guarded finalizer)
    (guards : site.Guards finalizer stored custody)
    (wanted : ¬ stored.IsDoomed)
    (isFinalized : custody.finalized = true) :
    Guarded finalizer { site with outstanding := stored.incarnation :: site.outstanding } ∧
      Guards finalizer { site with outstanding := stored.incarnation :: site.outstanding } stored
        custody := by
  have untouched := guards.quiet wanted
  have holds := (guards.finalized isFinalized).resolve_left untouched
  refine ⟨⟨guarded.numbered, guarded.known, guarded.born, guarded.origin, guarded.doomed,
    guarded.lasting, guarded.finalized, ?_, guarded.done⟩,
    ⟨guards.known, guards.quiet, guards.finalized, guards.doomed, ?_⟩⟩
  · intro other isOut
    obtain rfl | before := List.mem_cons.mp isOut
    · exact ⟨untouched, holds⟩
    · exact guarded.outstanding other before
  · intro isWithdrawn
    exact absurd (guards.withdrawn isWithdrawn).1 wanted

end Ask

/-- What is permitted may be asked. -/
theorem Guarded.ask
    {held : Option Stored}
    {state : Custody}
    {request : Request}
    (guarded : site.Guarded finalizer)
    (guards : ∀ stored ∈ held, site.Guards finalizer stored state)
    (permitted : (Reconciliation.custody finalizer (held.map Stored.object)).permits state
      request) :
    (site.ask held request).Guarded finalizer ∧
      ∀ stored ∈ held, (site.ask held request).Guards finalizer stored state := by
  cases request with
  | addAttachmentFinalizer attachment added nodeId =>
    obtain ⟨isHeld, rfl, wanted⟩ := permitted
    obtain ⟨stored, rfl, rfl⟩ := Option.map_eq_some_iff.mp isHeld
    have guards := guards stored rfl
    have adds := ClusterClient.mem_withFinalizer stored.object.metadata.finalizers added
    refine ⟨guarded.send guards.known fun removes => absurd adds removes, ?_⟩
    rintro _ ⟨⟩
    exact guards.send fun removes => absurd adds removes
  | removeAttachmentFinalizer attachment removed =>
    obtain ⟨isHeld, rfl, isWithdrawn⟩ := permitted
    obtain ⟨stored, rfl, rfl⟩ := Option.map_eq_some_iff.mp isHeld
    have guards := guards stored rfl
    obtain ⟨isDoomed, notOut⟩ := guards.withdrawn isWithdrawn
    refine ⟨guarded.send guards.known fun _ => ⟨guards.doomed isDoomed, notOut⟩, ?_⟩
    rintro _ ⟨⟩
    exact guards.send fun _ => isDoomed
  | publish request timeout =>
    obtain ⟨attachment, isHeld, wanted, isFinalized⟩ := permitted
    obtain ⟨stored, rfl, rfl⟩ := Option.map_eq_some_iff.mp isHeld
    obtain ⟨guarded, guards⟩ := guarded.publish (guards stored rfl)
      (by simp [Stored.IsDoomed, wanted]) isFinalized
    refine ⟨guarded, ?_⟩
    rintro _ ⟨⟩
    exact guards
  | _ => exact ⟨guarded, guards⟩

/-- What the driver withdrew is outstanding no longer. -/
theorem Guarded.hear
    {held : Option Stored}
    {request : Request}
    {answer : request.Answer}
    (guarded : site.Guarded finalizer) :
    (site.hear held request answer).Guarded finalizer :=
  ⟨guarded.numbered, guarded.known, guarded.born, guarded.origin, guarded.doomed, guarded.lasting,
    guarded.finalized, fun other isOut => guarded.outstanding other (List.mem_filter.mp isOut).1,
    guarded.done⟩

/-- Only a request to add the finalizer is confirmed as such. -/
theorem exists_write_of_finalizes
    {request : Request}
    {answer : request.Answer}
    {state : Custody}
    (permitted : (Reconciliation.custody finalizer (some stored.object)).permits state request)
    (confirmed : request.finalizes answer = true) :
    ∃ write ∈ FinalizerWrite.ofRequest? (some stored) request,
      finalizer ∈ write.finalizers ∧ write.origin.incarnation = stored.incarnation := by
  cases request with
  | addAttachmentFinalizer attachment added nodeId =>
    obtain ⟨-, rfl, -⟩ := permitted
    exact ⟨_, rfl, ClusterClient.mem_withFinalizer _ added, rfl⟩
  | _ => cases confirmed

/-- The driver withdraws only volumes of attachments that are being deleted. -/
theorem isDoomed_of_withdraws
    {request : Request}
    {answer : request.Answer}
    {state : Custody}
    (permitted : (Reconciliation.custody finalizer (some stored.object)).permits state request)
    (withdraws : request.withdraws answer = true) :
    stored.IsDoomed := by
  cases request with
  | unpublish request timeout =>
    obtain ⟨attachment, same, isDoomed⟩ := permitted
    obtain rfl := Option.some.inj same
    exact isDoomed
  | _ => cases withdraws

/-- A reconciliation may rely on what it achieved by a request that is answered. -/
theorem Guards.hear
    {request : Request}
    {answer : request.Answer}
    {state : Custody}
    (guards : site.Guards finalizer stored state)
    (guarded : site.Guarded finalizer)
    (permitted : (Reconciliation.custody finalizer (some stored.object)).permits state request)
    (confirmed : request.finalizes answer = true →
      ∀ write ∈ FinalizerWrite.ofRequest? (some stored) request, write ∈ site.done) :
    (site.hear (some stored) request answer).Guards finalizer stored
      ((Reconciliation.custody finalizer (some stored.object)).advance state request answer) where
  known := guards.known
  quiet := guards.quiet
  finalized isFinalized := by
    obtain before | isConfirmed := Bool.or_eq_true_iff.mp isFinalized
    · exact guards.finalized before
    · obtain ⟨write, isWrite, added, about⟩ := exists_write_of_finalizes permitted isConfirmed
      exact about ▸ guarded.done write (confirmed isConfirmed write isWrite) added
  doomed := guards.doomed
  withdrawn isWithdrawn := by
    obtain before | withdraws := Bool.or_eq_true_iff.mp isWithdrawn
    · obtain ⟨isDoomed, notOut⟩ := guards.withdrawn before
      exact ⟨isDoomed, fun isOut => notOut (List.mem_filter.mp isOut).1⟩
    · refine ⟨isDoomed_of_withdraws permitted withdraws, ?_⟩
      intro isOut
      have spared := (List.mem_filter.mp isOut).2
      simp [withdraws] at spared

end Site

end VolumeAttacher
