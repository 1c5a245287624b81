import Mathlib.Data.List.Nodup
import Mathlib.Data.Set.Finite.List
import VolumeAttacher.Proofs.Cluster.Address

/-!
# Servers with optimistic concurrency

What may be relied on of any server that keeps an object whose writers do not know of each other.
Every write that it accepts gets a version that no other one has, and it refuses a write that states
another version than the present one. Which versions it gives, and in which words it refuses, is
left open, and so is what it answers to requests about other objects.
-/

namespace VolumeAttacher

/-- What a server keeps of one object. -/
structure Registry where
  address : Address
  /-- The object, if it is there. -/
  present : Option Edition
  /-- Everything that was ever written, the newest first. -/
  past : List Edition

namespace Registry

/-- An object that nobody wrote yet. -/
def vacant (address : Address) : Registry := ⟨address, none, []⟩

/-- Something is written. -/
def write (registry : Registry) (edition : Edition) : Registry :=
  { registry with present := some edition, past := edition :: registry.past }

/-- A version that nothing had before. -/
def IsFresh (registry : Registry) (version : String) : Prop :=
  version ≠ "" ∧ ∀ edition ∈ registry.past, edition.version ≠ version

/-- How a server may answer a request, and what it keeps of the object then. -/
inductive Answers (registry : Registry) (request : ClusterRequest) :
    Registry → ClusterResponse → Prop
  /-- The object is read. -/
  | shows {part : Part} {edition : Edition}
      (gets : request.method = .get)
      (reaches : request.part? registry.address = some part)
      (present : registry.present = some edition) :
    Answers registry request registry ⟨200, edition.shown⟩
  /-- There is no object. -/
  | misses {part : Part} {response : ClusterResponse} {message : String}
      (needs : request.method ≠ .post)
      (reaches : request.part? registry.address = some part)
      (absent : registry.present = none)
      (refused : response.problem? = some (.refused 404 "NotFound" message)) :
    Answers registry request registry response
  /-- The object is created. -/
  | creates {part : Part} {version : String}
      (posts : request.method = .post)
      (reaches : request.part? registry.address = some part)
      (absent : registry.present = none)
      (fresh : registry.IsFresh version) :
    Answers registry request (registry.write ⟨request.outcome part .null, version⟩)
      ⟨201, Edition.shown ⟨request.outcome part .null, version⟩⟩
  /-- What is to be created is there already, or what is to be changed has another version. -/
  | conflicts {part : Part} {response : ClusterResponse} {edition : Edition}
      {reason message : String}
      (writes : request.method ≠ .get)
      (reaches : request.part? registry.address = some part)
      (present : registry.present = some edition)
      (late : request.method = .post ∨ ¬ request.IsMadeFrom edition.version)
      (refused : response.problem? = some (.refused 409 reason message)) :
    Answers registry request registry response
  /-- The object is changed. -/
  | changes {old new : Edition}
      (present : registry.present = some old)
      (makes : request.Makes registry.address old new)
      (fresh : registry.IsFresh new.version) :
    Answers registry request (registry.write new) ⟨200, new.shown⟩
  /-- The request is about something else, and whatever it comes to leaves the object alone. -/
  | elsewhere {response : ClusterResponse}
      (astray : request.part? registry.address = none) :
    Answers registry request registry response

/-- The histories of an object. -/
inductive Reachable : Registry → Prop
  | vacant (address : Address) : Reachable (vacant address)
  /-- Somebody writes something, whatever was there. -/
  | written {registry : Registry} {edition : Edition}
      (reachable : Reachable registry)
      (fresh : registry.IsFresh edition.version) :
    Reachable (registry.write edition)
  | deleted {registry : Registry} (reachable : Reachable registry) :
    Reachable { registry with present := none }
  /-- A request of anybody is answered. -/
  | answered {registry next : Registry} {request : ClusterRequest} {response : ClusterResponse}
      (reachable : Reachable registry)
      (answers : registry.Answers request next response) :
    Reachable next

/-- What is there was written, and no two writes got the same version. -/
structure Sound (registry : Registry) : Prop where
  known : ∀ edition ∈ registry.present, edition ∈ registry.past
  nodup : (registry.past.map Edition.version).Nodup

variable {registry next : Registry} {edition : Edition} {request : ClusterRequest}
  {response : ClusterResponse} {version : String}

theorem Sound.write (sound : registry.Sound) (fresh : registry.IsFresh edition.version) :
    (registry.write edition).Sound where
  known := by
    rintro _ ⟨⟩
    exact List.mem_cons_self
  nodup := by
    refine List.nodup_cons.mpr ⟨?_, sound.nodup⟩
    rw [List.mem_map]
    rintro ⟨old, known, same⟩
    exact fresh.2 old known same

theorem Reachable.sound (reachable : registry.Reachable) : registry.Sound := by
  induction reachable with
  | vacant => exact ⟨nofun, List.nodup_nil⟩
  | written _ fresh sound => exact sound.write fresh
  | deleted _ sound => exact ⟨nofun, sound.nodup⟩
  | answered _ answers sound =>
    cases answers with
    | shows | misses | conflicts | elsewhere => exact sound
    | creates posts reaches absent fresh => exact sound.write fresh
    | changes present makes fresh => exact sound.write fresh

/-- The version tells what is there. -/
theorem Sound.eq_of_version_eq
    {old : Edition}
    (sound : registry.Sound)
    (present : registry.present = some edition)
    (known : old ∈ registry.past)
    (same : old.version = edition.version) :
    edition = old :=
  List.inj_on_of_nodup_map sound.nodup (sound.known edition present) known same.symm

/-! ## Servers that count -/

/-- What a server keeps that counts its writes. -/
structure Mirrors (slot : Option StoredObject) (registry : Registry) : Prop where
  present : registry.present = slot.map fun stored => ⟨stored.body, stored.versionText⟩
  counted : ∀ edition ∈ registry.past,
    ∃ number ≤ (slot.map StoredObject.version).getD 0, edition.version = toString number

theorem toString_injective : Function.Injective (toString : Nat → String) := by
  intro first second same
  have digits : Nat.toDigits 10 first = Nat.toDigits 10 second := by
    rw [← Nat.toList_repr, ← Nat.toList_repr]
    exact congrArg String.toList same
  rw [← Nat.ofDigitChars_ten_toDigits (n := first), digits, Nat.ofDigitChars_ten_toDigits]

theorem Mirrors.isFresh
    {slot : Option StoredObject}
    (mirrors : Mirrors slot registry) :
    registry.IsFresh (toString ((slot.map StoredObject.version).getD 0 + 1)) := by
  refine ⟨?_, ?_⟩
  · intro empty
    have digits := congrArg String.toList empty
    exact Nat.toDigits_ne_nil ((Nat.toList_repr ..).symm.trans digits)
  · intro edition known same
    obtain ⟨number, below, isText⟩ := mirrors.counted edition known
    have equal := toString_injective (isText.symm.trans same)
    omega

theorem Mirrors.write
    {slot : Option StoredObject}
    (mirrors : Mirrors slot registry)
    (body : Json) :
    let number := (slot.map StoredObject.version).getD 0 + 1
    Mirrors (some ⟨body, number⟩) (registry.write ⟨body, toString number⟩) := by
  refine ⟨rfl, ?_⟩
  intro edition isVersion
  obtain rfl | known := List.mem_cons.mp isVersion
  · exact ⟨_, Nat.le_refl _, rfl⟩
  · obtain ⟨number, below, isText⟩ := mirrors.counted edition known
    exact ⟨number, Nat.le_succ_of_le below, isText⟩

theorem isMadeFrom_of_isCurrent
    {stored : StoredObject}
    (current : ClusterServer.isCurrent stored request.content = true) :
    request.IsMadeFrom stored.versionText := by
  intro stated states
  unfold ClusterServer.isCurrent at current
  rw [states] at current
  exact of_decide_eq_true current

/-- A write to what is there is made, or refused if it states another version. -/
theorem Mirrors.replace
    {stored : StoredObject}
    (mirrors : Mirrors (some stored) registry)
    (writes : request.method = .put ∨ request.method = .patch)
    (reaches : request.part? registry.address = some .everything) :
    let replaced := ClusterServer.replace stored request.content (request.stated stored.body)
    ∃ next, registry.Answers request next replaced.2 ∧ Mirrors replaced.1 next := by
  intro replaced
  by_cases current : ClusterServer.isCurrent stored request.content = true
  · have made : replaced = (some ⟨request.stated stored.body, stored.version + 1⟩,
        ⟨200, StoredObject.shown ⟨request.stated stored.body, stored.version + 1⟩⟩) :=
      if_pos current
    have makes : request.Makes registry.address ⟨stored.body, stored.versionText⟩
        ⟨request.stated stored.body, toString (stored.version + 1)⟩ :=
      ⟨writes, isMadeFrom_of_isCurrent current, .everything, reaches, rfl⟩
    rw [made]
    exact ⟨_, .changes mirrors.present makes mirrors.isFresh, mirrors.write _⟩
  · have kept : replaced = (some stored,
        ClusterServer.refusal 409 "Conflict" "the object has been modified") :=
      if_neg current
    rw [kept]
    refine ⟨registry, .conflicts ?_ reaches mirrors.present (.inr ?_) rfl, mirrors⟩
    · obtain put | patch := writes
      · simp [put]
      · simp [patch]
    · intro isMade
      apply current
      unfold ClusterServer.isCurrent
      cases stated : ClusterServer.statedVersion? request.content with
      | none => rfl
      | some version => exact decide_eq_true (isMade version stated)

/-- A server that counts its writes answers as it may what is sent to its object. -/
theorem Mirrors.answers
    {slot : Option StoredObject}
    (mirrors : Mirrors slot registry)
    (request : ClusterRequest)
    (reaches : request.part? registry.address = some .everything) :
    ∃ next, registry.Answers request next (ClusterServer.respond slot request).2 ∧
      Mirrors (ClusterServer.respond slot request).1 next := by
  obtain ⟨method, path, body⟩ := request
  cases slot with
  | none =>
    cases method with
    | post =>
      exact ⟨_, .creates rfl reaches mirrors.present mirrors.isFresh, mirrors.write _⟩
    | get | put | patch => exact ⟨registry, .misses nofun reaches mirrors.present rfl, mirrors⟩
  | some stored =>
    cases method with
    | get => exact ⟨registry, .shows rfl reaches mirrors.present, mirrors⟩
    | post => exact ⟨registry, .conflicts nofun reaches mirrors.present (.inl rfl) rfl, mirrors⟩
    | put => exact mirrors.replace (.inl rfl) reaches
    | patch => exact mirrors.replace (.inr rfl) reaches

/-! ## Requests that can be answered -/

/-- Some text is still unused. -/
theorem exists_unused (texts : List String) : ∃ text, text ∉ texts := by
  have numerals := Set.infinite_range_of_injective toString_injective
  obtain ⟨text, -, unused⟩ := numerals.exists_notMem_finite (List.finite_toSet texts)
  exact ⟨text, unused⟩

/-- Some version is still to be given. -/
theorem exists_isFresh (registry : Registry) : ∃ version, registry.IsFresh version := by
  obtain ⟨version, unused⟩ := exists_unused ("" :: registry.past.map Edition.version)
  refine ⟨version, fun empty => unused ?_, fun edition known same => unused ?_⟩
  · rw [empty]
    exact List.mem_cons_self
  · rw [← same]
    exact List.mem_cons_of_mem _ (List.mem_map_of_mem known)

/-- A write that may be accepted can be. -/
theorem exists_answers_of_current
    {edition : Edition}
    {part : Part}
    (registry : Registry)
    (present : registry.present = some edition)
    (reaches : request.part? registry.address = some part)
    (writes : request.method = .put ∨ request.method = .patch)
    (current : request.IsMadeFrom edition.version) :
    ∃ next response, registry.Answers request next response := by
  obtain ⟨version, fresh⟩ := registry.exists_isFresh
  have makes : request.Makes registry.address edition ⟨request.outcome part edition.body, version⟩ :=
    ⟨writes, current, part, reaches, rfl⟩
  exact ⟨_, _, .changes present makes fresh⟩

/-- Every request can be answered. -/
theorem exists_answers (registry : Registry) (request : ClusterRequest) :
    ∃ next response, registry.Answers request next response := by
  cases reaches : request.part? registry.address with
  | none => exact ⟨registry, ClusterServer.refusal 404 "NotFound" "", .elsewhere reaches⟩
  | some part =>
    cases present : registry.present with
    | none =>
      by_cases posts : request.method = .post
      · obtain ⟨version, fresh⟩ := registry.exists_isFresh
        exact ⟨_, _, .creates posts reaches present fresh⟩
      · exact ⟨_, ClusterServer.refusal 404 "NotFound" "", .misses posts reaches present rfl⟩
    | some edition =>
      have conflict (writes : request.method ≠ .get)
          (late : request.method = .post ∨ ¬ request.IsMadeFrom edition.version) :
          ∃ next response, registry.Answers request next response :=
        ⟨_, ClusterServer.refusal 409 "Conflict" "",
          .conflicts writes reaches present late rfl⟩
      by_cases current : request.IsMadeFrom edition.version
      · cases method : request.method with
        | get => exact ⟨_, _, .shows method reaches present⟩
        | post => exact conflict (by simp [method]) (.inl method)
        | put => exact registry.exists_answers_of_current present reaches (.inl method) current
        | patch => exact registry.exists_answers_of_current present reaches (.inr method) current
      · by_cases gets : request.method = .get
        · exact ⟨_, _, .shows gets reaches present⟩
        · exact conflict gets (.inr current)

end Registry

end VolumeAttacher
