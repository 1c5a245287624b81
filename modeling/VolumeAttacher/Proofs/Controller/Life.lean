import VolumeAttacher.Proofs.Controller.Site
import VolumeAttacher.Proofs.Reconciliation.Tenure

/-!
# How long an attachment lives

What is cached of an attachment tells what is stored, as long as it is stored: an attachment that is
gone does not come back, and what it is for does not change. So an attachment that is stored and was
cached once is cached ever after, and its volume is in use.
-/

namespace VolumeAttacher

namespace Site

variable {finalizer : String} {driver : DriverName} {volume : String} {incarnation : Nat}
  {site next : Site} {stored new : Stored}

/-- What an attachment is for does not change. -/
def KeepsPurpose (site next : Site) : Prop :=
  ∀ stored ∈ site.present, ∀ new ∈ next.present, new.incarnation = stored.incarnation →
    ∀ driver, new.object.volumeFor driver = stored.object.volumeFor driver

/-- A state shows an incarnation, which uses a volume. -/
def Shows (driver : DriverName) (volume : String) (incarnation : Nat) (state : Option Stored) :
    Prop :=
  ∃ stored, state = some stored ∧ stored.incarnation = incarnation ∧
    stored.object.volumeFor driver = some volume

/-- An incarnation is cached and stored, and uses a volume. -/
def Lives (driver : DriverName) (volume : String) (incarnation : Nat) (site : Site) : Prop :=
  ∀ state ∈ site.states, Shows driver volume incarnation state

/-- An incarnation is not stored any more. -/
def Gone (incarnation : Nat) (site : Site) : Prop :=
  incarnation < site.births ∧ ∀ stored ∈ site.present, stored.incarnation ≠ incarnation

/-- An incarnation was cached, and uses a volume for as long as it is stored. -/
def Settled (driver : DriverName) (volume : String) (incarnation : Nat) (site : Site) : Prop :=
  site.Lives driver volume incarnation ∨ site.Gone incarnation

/-- Whatever was stored still is, and was ever since, or is gone. -/
def Steady (driver : DriverName) (site : Site) : Prop :=
  ∀ newer stored older volume, site.states = newer ++ [some stored] ++ older →
    stored.object.volumeFor driver = some volume →
      (∀ state ∈ newer ++ [some stored], Shows driver volume stored.incarnation state) ∨
        site.Gone stored.incarnation

/-- An incarnation that is stored lives, if it was cached. -/
theorem Settled.lives_of_present
    (settled : site.Settled driver volume stored.incarnation)
    (present : site.present = some stored) :
    site.Lives driver volume stored.incarnation :=
  settled.resolve_right fun gone => gone.2 stored present rfl

/-- An attachment that lives is stored. -/
theorem Lives.present (lives : site.Lives driver volume incarnation) :
    Shows driver volume incarnation site.present :=
  lives _ List.mem_cons_self

/-- An attachment that lives is cached. -/
theorem Lives.cached (lives : site.Lives driver volume incarnation) :
    Shows driver volume incarnation site.cached :=
  lives _ (List.getLast_mem (List.cons_ne_nil _ _))

/-- What is cached uses its volume for as long as it is stored. -/
theorem Steady.settled_of_cached
    (steady : site.Steady driver)
    (cached : site.cached = some stored)
    (refers : stored.object.volumeFor driver = some volume) :
    site.Settled driver volume stored.incarnation := by
  have split : site.states = site.states.dropLast ++ [some stored] := by
    rw [← cached]
    exact (List.dropLast_append_getLast (List.cons_ne_nil _ _)).symm
  refine (steady _ stored [] volume (by simpa using split) refers).imp_left ?_
  intro shows state isState
  exact shows state (split ▸ isState)

/-- A site is steady if nothing was stored before what is stored now. -/
theorem steady_of_older (vacant : ∀ stored, some stored ∉ site.older) : site.Steady driver := by
  intro newer stored older volume split refers
  cases newer with
  | nil => exact .inl fun state isState => ⟨stored, List.mem_singleton.mp isState, rfl, refers⟩
  | cons latest newer =>
    have before : site.older = newer ++ [some stored] ++ older := (List.cons.inj split).2
    exact absurd (before ▸ by simp) (vacant stored)

/-! ## What happens on the server -/

theorem Succeeds.gone
    (succeeds : site.Succeeds finalizer new next)
    (gone : site.Gone incarnation) :
    next.Gone incarnation := by
  refine ⟨Nat.lt_of_lt_of_le gone.1 succeeds.births, ?_⟩
  rintro other isPresent rfl
  obtain none | some := succeeds.present
  · simp [none] at isPresent
  · obtain rfl : new = other := by simpa [some] using isPresent
    obtain ⟨old, present, same, -⟩ := succeeds.inherits gone.1
    exact gone.2 old present same

/-- What was stored at last is stored now, or is gone. -/
theorem Succeeds.shows_or_gone
    (succeeds : site.Succeeds finalizer new next)
    (guarded : site.Guarded finalizer)
    (keeps : KeepsPurpose site next)
    (shows : Shows driver volume incarnation site.present) :
    Shows driver volume incarnation next.present ∨ next.Gone incarnation := by
  obtain ⟨old, present, rfl, refers⟩ := shows
  have born : old.incarnation < next.births := by
    have known := guarded.known old (present ▸ List.mem_cons_self)
    exact Nat.lt_of_lt_of_le (guarded.born old known) succeeds.births
  obtain none | some := succeeds.present
  · exact .inr ⟨born, by simp [none]⟩
  · by_cases same : new.incarnation = old.incarnation
    · have purpose := keeps old present new some same driver
      exact .inl ⟨new, some, same, purpose.trans refers⟩
    · refine .inr ⟨born, ?_⟩
      rintro other isPresent
      obtain rfl : new = other := by simpa [some] using isPresent
      exact same

theorem Succeeds.settled
    (succeeds : site.Succeeds finalizer new next)
    (guarded : site.Guarded finalizer)
    (keeps : KeepsPurpose site next)
    (settled : site.Settled driver volume incarnation) :
    next.Settled driver volume incarnation := by
  obtain lives | gone := settled
  · refine (succeeds.shows_or_gone guarded keeps (lives _ List.mem_cons_self)).imp_left ?_
    intro shows state isState
    obtain rfl | before := List.mem_cons.mp isState
    · exact shows
    · exact lives state (succeeds.older ▸ before)
  · exact .inr (succeeds.gone gone)

theorem Succeeds.steady
    (succeeds : site.Succeeds finalizer new next)
    (guarded : site.Guarded finalizer)
    (keeps : KeepsPurpose site next)
    (steady : site.Steady driver) :
    next.Steady driver := by
  intro newer stored older volume split refers
  cases newer with
  | nil =>
    refine .inl fun state isState => ?_
    exact ⟨stored, List.mem_singleton.mp isState, rfl, refers⟩
  | cons latest newer =>
    obtain ⟨rfl, before⟩ := List.cons.inj split
    rw [succeeds.older] at before
    obtain shows | gone := steady newer stored older volume before refers
    · have first : site.present ∈ newer ++ [some stored] := by
        cases newer with
        | nil => exact List.mem_singleton.mpr (List.cons.inj before).1
        | cons second rest =>
          obtain rfl : site.present = second := (List.cons.inj before).1
          exact List.mem_cons_self
      refine (succeeds.shows_or_gone guarded keeps (shows _ first)).imp_left ?_
      intro latest state isState
      obtain rfl | earlier := List.mem_cons.mp isState
      · exact latest
      · exact shows state earlier
    · exact .inr (succeeds.gone gone)

/-! ## What becomes of the caches -/

section Forget

variable {older : List (Option Stored)}

theorem Lives.forget
    (lives : site.Lives driver volume incarnation)
    (forgets : older <+: site.older) :
    (site.forget older).Lives driver volume incarnation := by
  intro state isState
  obtain same | later := List.mem_cons.mp isState
  · exact lives state (same ▸ List.mem_cons_self)
  · exact lives state (List.mem_cons_of_mem _ (forgets.subset later))

theorem Settled.forget
    (settled : site.Settled driver volume incarnation)
    (forgets : older <+: site.older) :
    (site.forget older).Settled driver volume incarnation :=
  settled.imp (fun lives => lives.forget forgets) id

theorem Steady.forget (steady : site.Steady driver) (forgets : older <+: site.older) :
    (site.forget older).Steady driver := by
  intro newer stored before volume split refers
  obtain ⟨rest, append⟩ := forgets
  refine steady newer stored (before ++ rest) volume ?_ refers
  calc site.states = (site.forget older).states ++ rest := by
        rw [states, ← append]
        rfl
    _ = newer ++ [some stored] ++ (before ++ rest) := by
        rw [split, List.append_assoc]

end Forget

/-! ## What reconciliations do -/

theorem Settled.congr
    (settled : site.Settled driver volume incarnation)
    (states : next.states = site.states)
    (births : next.births = site.births) :
    next.Settled driver volume incarnation := by
  have present : next.present = site.present := (List.cons.inj states).1
  unfold Settled Lives Gone at settled ⊢
  rwa [states, births, present]

theorem Steady.congr
    (steady : site.Steady driver)
    (states : next.states = site.states)
    (births : next.births = site.births) :
    next.Steady driver := by
  have present : next.present = site.present := (List.cons.inj states).1
  unfold Steady Gone at steady ⊢
  rwa [states, births, present]

/-- More writes of finalizers are sent. -/
def dispatch (site : Site) (writes : List FinalizerWrite) : Site :=
  { site with sent := writes ++ site.sent }

section Dispatch

variable {writes : List FinalizerWrite}

theorem removing_dispatch :
    (site.dispatch writes).Removing finalizer incarnation ↔
      (∃ write ∈ writes, finalizer ∉ write.finalizers ∧ write.origin.incarnation = incarnation) ∨
        site.Removing finalizer incarnation := by
  simp [Removing, dispatch, or_and_right, exists_or]

theorem Keeps.dispatch (keeps : site.Keeps finalizer incarnation) :
    (site.dispatch writes).Keeps finalizer incarnation :=
  keeps.imp (fun removing => removing_dispatch.mpr (.inr removing)) id

/-- Writes may be sent that do not take the finalizer from what is wanted or outstanding. -/
theorem Guarded.dispatch
    (guarded : site.Guarded finalizer)
    (known : ∀ write ∈ writes, write.origin ∈ site.versions)
    (spares : ∀ write ∈ writes, finalizer ∉ write.finalizers →
      site.Doomed write.origin.incarnation ∧ write.origin.incarnation ∉ site.outstanding) :
    (site.dispatch writes).Guarded finalizer := by
  induction writes with
  | nil => exact guarded
  | cons write rest inductionHypothesis =>
    obtain ⟨knownFirst, known⟩ := List.forall_mem_cons.mp known
    obtain ⟨sparesFirst, spares⟩ := List.forall_mem_cons.mp spares
    exact (inductionHypothesis known spares).send knownFirst sparesFirst

end Dispatch

end Site

end VolumeAttacher
