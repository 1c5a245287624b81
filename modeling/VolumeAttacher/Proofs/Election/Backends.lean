import Mathlib.Data.List.Forall2
import VolumeAttacher.Proofs.Cluster.Registry
import VolumeAttacher.Proofs.Election.Holdings

/-!
# One lock in two kinds of objects

A lock as it should be says which record it holds, and which of the readings so far are still
current. A lease and a configuration map are this lock for any number of clients, on any server with
optimistic concurrency: what is current for the lock is the version that the server gave to the
object. Readings are numbered, since two objects never have the same versions.
-/

namespace VolumeAttacher

/-- What clients do with a lock, and others with its object. -/
inductive LockMove where
  | get
  | create (record : Record)
  /-- Replace what a reading found, whoever read it. -/
  | update (record : Record) (reading : Nat)
  /-- The object is deleted. -/
  | delete

/-- What comes of a call on a lock. -/
inductive LockOutcome where
  /-- There is no object to read. -/
  | absent
  | holds (record : Record)
  | accepted
  /-- Somebody else wrote first. -/
  | conflict
  /-- There is no object to write over. -/
  | missing
  /-- Anything else. -/
  | failed
  deriving DecidableEq

/-- The outcome with another record. -/
def LockOutcome.map (change : Record → Record) : LockOutcome → LockOutcome
  | .holds record => .holds (change record)
  | outcome => outcome

theorem LockOutcome.map_kept_configMaps : LockOutcome.map (LockKind.kept .configMaps) = id := by
  funext outcome
  cases outcome <;> rfl

/-- A lock as it should be. -/
structure Ledger where
  /-- The record that was accepted last, if the object is there. -/
  held : Option Record
  /-- For each reading, whether the object is still the one that was read. -/
  readings : List Bool

namespace Ledger

/-- Nothing that was read is current anymore. -/
def renew (ledger : Ledger) (held : Option Record) : Ledger :=
  ⟨held, ledger.readings.map fun _ => false⟩

/-- What a move does to the lock, and what comes of it if it is a call. A call that names no reading
is not made. -/
def perform (ledger : Ledger) : LockMove → Ledger × Option LockOutcome
  | .get =>
    match ledger.held with
    | none => (ledger, some .absent)
    | some record => (⟨ledger.held, ledger.readings ++ [true]⟩, some (.holds record))
  | .create record =>
    match ledger.held with
    | none => (ledger.renew (some record), some .accepted)
    | some _ => (ledger, some .conflict)
  | .update record reading =>
    match ledger.readings[reading]?, ledger.held with
    | none, _ => (ledger, none)
    | some _, none => (ledger, some .missing)
    | some true, some _ => (ledger.renew (some record), some .accepted)
    | some false, some _ => (ledger, some .conflict)
  | .delete => (ledger.renew none, none)

/-- What comes of moves one after the other. -/
def outcomes (ledger : Ledger) : List LockMove → List (Option LockOutcome)
  | [] => []
  | move :: moves => (ledger.perform move).2 :: (ledger.perform move).1.outcomes moves

end Ledger

/-- An object of a server, and the versions that clients read of it. -/
structure LockSession where
  registry : Registry
  readings : List String

namespace LockMove

/-- The call that a move is, given the versions that were read. -/
def call? (readings : List String) : LockMove → Option LockCall
  | .get => some .get
  | .create record => some (.create record)
  | .update record reading => readings[reading]?.map fun version => .update record version
  | .delete => none

/-- The times of the record that is written can be expressed. -/
def IsExpressible : LockMove → Prop
  | .create record | .update record _ => record.IsExpressible
  | .get | .delete => True

end LockMove

/-- The version that a reply tells. -/
def LockReply.version? : LockReply → Option String
  | .got (.ok found) => found.map Versioned.version
  | .got (.error _) | .written _ => none

namespace LockObject

/-- What a reply means for the client. -/
def outcome (lock : LockObject) : LockReply → LockOutcome
  | .got (.ok none) => .absent
  | .got (.ok (some found)) => .holds found.record
  | .written (.ok ()) => .accepted
  | .written (.error (.lockConflict name)) => if name = lock.describe then .conflict else .failed
  | .written (.error (.cluster (.refused 404 _ _))) => .missing
  | .got (.error _) | .written (.error _) => .failed

/-- A move with the object of a lock, on any server with optimistic concurrency. -/
inductive Step (lock : LockObject) :
    LockSession → LockMove → LockSession → Option LockOutcome → Prop
  /-- A client calls, and the server answers the request. -/
  | called {session : LockSession} {move : LockMove} {call : LockCall} {next : Registry}
      {response : ClusterResponse}
      (calls : move.call? session.readings = some call)
      (answers : session.registry.Answers (lock.request call) next response) :
    Step lock session move
      ⟨next, session.readings ++ (lock.reply call response).version?.toList⟩
      (some (lock.outcome (lock.reply call response)))
  /-- A client that did not read has no version to update. -/
  | unread {session : LockSession} {record : Record} {reading : Nat}
      (unknown : session.readings[reading]? = none) :
    Step lock session (.update record reading) session none
  | deleted (session : LockSession) :
    Step lock session .delete ⟨{ session.registry with present := none }, session.readings⟩ none

/-- Moves one after the other, and what comes of them. -/
inductive Runs (lock : LockObject) :
    LockSession → List LockMove → List (Option LockOutcome) → Prop
  | done (session : LockSession) : Runs lock session [] []
  | step {session next : LockSession} {move : LockMove} {moves : List LockMove}
      {outcome : Option LockOutcome} {outcomes : List (Option LockOutcome)}
      (step : Step lock session move next outcome)
      (runs : Runs lock next moves outcomes) :
    Runs lock session (move :: moves) (outcome :: outcomes)

/-- The object of a lock is there with a record exactly if the lock holds one. -/
structure Keeps (lock : LockObject) (registry : Registry) (held : Option Record) : Prop where
  address : registry.address = lock.address
  absent : held = none → registry.present = none
  present : ∀ record, held = some record →
    ∃ edition, registry.present = some edition ∧ lock.Holds edition (lock.kind.kept record)

/-- A version was read, and it is current if the object still has it. -/
structure Tells (registry : Registry) (current : Bool) (version : String) : Prop where
  known : ∃ edition ∈ registry.past, edition.version = version
  current : current = true ↔ ∃ edition ∈ registry.present, edition.version = version

/-- The object of a session is a lock as it should be. -/
structure Represents (lock : LockObject) (session : LockSession) (ledger : Ledger) : Prop where
  sound : session.registry.Sound
  keeps : lock.Keeps session.registry ledger.held
  readings : List.Forall₂ (Tells session.registry) ledger.readings session.readings

variable {lock : LockObject} {session next : LockSession} {ledger : Ledger} {record : Record}
  {edition : Edition}

theorem Keeps.eq_none
    {registry : Registry}
    {held : Option Record}
    (keeps : lock.Keeps registry held)
    (absent : registry.present = none) :
    held = none := by
  cases held with
  | none => rfl
  | some record =>
    obtain ⟨edition, present, -⟩ := keeps.present record rfl
    rw [absent] at present
    cases present

/-- What a client calls reaches the object. -/
theorem Keeps.part?_eq
    {registry : Registry}
    {held : Option Record}
    (keeps : lock.Keeps registry held)
    (call : LockCall) :
    (lock.request call).part? registry.address = some .everything :=
  keeps.address ▸ lock.part?_request call

/-- What is written for a call makes of the object what the call says. -/
theorem Keeps.body_eq
    {registry : Registry}
    {held : Option Record}
    {call : LockCall}
    {old new : Edition}
    (keeps : lock.Keeps registry held)
    (makes : (lock.request call).Makes registry.address old new) :
    new = ⟨(lock.request call).stated old.body, new.version⟩ := by
  obtain ⟨part, reaches, body⟩ := makes.body
  obtain rfl := Option.some.inj ((keeps.part?_eq call).symm.trans reaches)
  rw [← show new.body = (lock.request call).stated old.body from body]

theorem Keeps.exists_holds
    {registry : Registry}
    {held : Option Record}
    (keeps : lock.Keeps registry held)
    (present : registry.present = some edition) :
    ∃ record, held = some record ∧ lock.Holds edition (lock.kind.kept record) := by
  cases held with
  | none =>
    rw [keeps.absent rfl] at present
    cases present
  | some record =>
    obtain ⟨other, isPresent, holds⟩ := keeps.present record rfl
    obtain rfl := Option.some.inj (present.symm.trans isPresent)
    exact ⟨record, rfl, holds⟩

theorem Represents.getElem?_readings
    (represents : lock.Represents session ledger)
    (reading : Nat) :
    (session.readings[reading]? = none ∧ ledger.readings[reading]? = none) ∨
      ∃ version current, session.readings[reading]? = some version ∧
        ledger.readings[reading]? = some current ∧ Tells session.registry current version := by
  obtain ⟨sameLength, tells⟩ := List.forall₂_iff_get.mp represents.readings
  by_cases inside : reading < ledger.readings.length
  · refine .inr ⟨session.readings[reading], ledger.readings[reading], ?_, ?_, ?_⟩
    · exact List.getElem?_eq_getElem _
    · exact List.getElem?_eq_getElem _
    · exact tells reading inside (sameLength ▸ inside)
  · refine .inl ⟨?_, ?_⟩
    · exact List.getElem?_eq_none (sameLength ▸ Nat.le_of_not_lt inside)
    · exact List.getElem?_eq_none (Nat.le_of_not_lt inside)

/-- What is written holds the record, and makes every reading stale. -/
theorem Represents.write
    (represents : lock.Represents session ledger)
    (fresh : session.registry.IsFresh edition.version)
    (holds : lock.Holds edition (lock.kind.kept record)) :
    lock.Represents ⟨session.registry.write edition, session.readings⟩
      (ledger.renew (some record)) where
  sound := represents.sound.write fresh
  keeps := by
    refine ⟨represents.keeps.address, nofun, ?_⟩
    rintro _ ⟨⟩
    exact ⟨edition, rfl, holds⟩
  readings := by
    refine List.forall₂_map_left_iff.mpr (represents.readings.imp ?_)
    rintro _ version ⟨⟨old, known, isVersion⟩, -⟩
    refine ⟨⟨old, List.mem_cons_of_mem _ known, isVersion⟩, nofun, ?_⟩
    rintro ⟨_, ⟨⟩, same⟩
    exact absurd (isVersion.trans same.symm) (fresh.2 old known)

theorem Represents.delete (represents : lock.Represents session ledger) :
    lock.Represents ⟨{ session.registry with present := none }, session.readings⟩
      (ledger.renew none) where
  sound := ⟨nofun, represents.sound.nodup⟩
  keeps := ⟨represents.keeps.address, fun _ => rfl, nofun⟩
  readings := by
    refine List.forall₂_map_left_iff.mpr (represents.readings.imp ?_)
    rintro _ version ⟨known, -⟩
    exact ⟨known, nofun, nofun⟩

/-! ## Answers of the server -/

theorem found_of_missing
    {response : ClusterResponse}
    {message : String}
    (refused : response.problem? = some (.refused 404 "NotFound" message)) :
    lock.found response = .ok none := by
  unfold found ClusterResponse.object?
  cases lock.kind with
  | leases | configMaps =>
    dsimp only
    rw [ClusterResponse.object_of_refused _ refused]
    simp

/-- A refused writing is a conflict exactly if its code is 409. -/
theorem written_of_refused
    {response : ClusterResponse}
    {code : Nat}
    {reason message : String}
    (refused : response.problem? = some (.refused code reason message)) :
    lock.written response = if code = 409 then .error (.lockConflict lock.describe)
      else .error (.cluster (.refused code reason message)) := by
  unfold written
  cases lock.kind with
  | leases | configMaps =>
    dsimp only
    rw [ClusterResponse.object_of_refused _ refused]
    rfl

theorem method_update (lock : LockObject) (record : Record) (version : String) :
    (lock.request (.update record version)).method = .put ∨
      (lock.request (.update record version)).method = .patch := by
  unfold request
  cases lock.kind with
  | leases => exact .inl rfl
  | configMaps => exact .inr rfl

/-- An update is made from the version that it carries. -/
theorem isMadeFrom_update_iff {stated version : String} :
    (lock.request (.update record stated)).IsMadeFrom version ↔ stated = version := by
  have states : ClusterServer.statedVersion? (lock.request (.update record stated)).content =
      some stated := by
    unfold request ClusterRequest.content updated
    cases lock.kind with
    | leases | configMaps => rfl
  unfold ClusterRequest.IsMadeFrom
  rw [states]
  simp

/-! ## One move -/

section Calls

variable {registry : Registry} {response : ClusterResponse}

/-- Reading finds what the lock holds. -/
theorem Represents.get
    (represents : lock.Represents session ledger)
    (answers : session.registry.Answers (lock.request .get) registry response) :
    lock.Represents
        ⟨registry, session.readings ++ (lock.reply .get response).version?.toList⟩
        (ledger.perform .get).1 ∧
      some (lock.outcome (lock.reply .get response)) =
        (ledger.perform .get).2.map (.map lock.kind.kept) := by
  cases answers with
  | @shows part edition gets reaches present =>
    obtain ⟨record, held, holds⟩ := represents.keeps.exists_holds present
    have reply : lock.reply .get ⟨200, edition.shown⟩ =
        .got (.ok (some ⟨lock.kind.kept record, edition.version⟩)) := congrArg LockReply.got holds
    have performed : ledger.perform .get =
        (⟨ledger.held, ledger.readings ++ [true]⟩, some (.holds record)) := by
      simp [Ledger.perform, held]
    have tells : Tells session.registry true edition.version :=
      ⟨⟨edition, represents.sound.known edition present, rfl⟩,
        fun _ => ⟨edition, present, rfl⟩, fun _ => rfl⟩
    rw [reply, performed]
    exact ⟨⟨represents.sound, represents.keeps,
      List.rel_append represents.readings (.cons tells .nil)⟩, rfl⟩
  | misses needs reaches absent refused =>
    have reply : lock.reply .get response = .got (.ok none) :=
      congrArg LockReply.got (found_of_missing refused)
    have performed : ledger.perform .get = (ledger, some .absent) := by
      simp [Ledger.perform, represents.keeps.eq_none absent]
    rw [reply, performed, LockReply.version?, Option.map_none, Option.toList_none, List.append_nil]
    exact ⟨represents, rfl⟩
  | creates posts => cases posts
  | conflicts writes => exact absurd rfl writes
  | changes present makes =>
    have writes := makes.writes
    simp [request] at writes
  | elsewhere astray => simp [represents.keeps.part?_eq] at astray

/-- Creating fails exactly if there is something. -/
theorem Represents.create
    (represents : lock.Represents session ledger)
    (expressible : record.IsExpressible)
    (answers : session.registry.Answers (lock.request (.create record)) registry response) :
    lock.Represents ⟨registry, session.readings⟩ (ledger.perform (.create record)).1 ∧
      some (lock.outcome (.written (lock.written response))) =
        (ledger.perform (.create record)).2.map (.map lock.kind.kept) := by
  cases answers with
  | shows gets => cases gets
  | misses needs => exact absurd rfl needs
  | @creates part version posts reaches absent fresh =>
    obtain rfl := Option.some.inj ((represents.keeps.part?_eq _).symm.trans reaches)
    have holds : lock.Holds ⟨lock.created record, version⟩ (lock.kind.kept record) :=
      holds_created version expressible
    have written : lock.written ⟨201, Edition.shown ⟨lock.created record, version⟩⟩ = .ok () :=
      holds.written (by decide)
    have performed : ledger.perform (.create record) =
        (ledger.renew (some record), some .accepted) := by
      simp [Ledger.perform, represents.keeps.eq_none absent]
    rw [performed]
    refine ⟨represents.write fresh holds, ?_⟩
    exact congrArg (fun result => some (lock.outcome (.written result))) written
  | conflicts writes reaches present late refused =>
    obtain ⟨before, held, -⟩ := represents.keeps.exists_holds present
    have performed : ledger.perform (.create record) = (ledger, some .conflict) := by
      simp [Ledger.perform, held]
    rw [performed, written_of_refused refused, if_pos rfl]
    exact ⟨represents, by simp [outcome, LockOutcome.map]⟩
  | changes present makes =>
    have writes := makes.writes
    simp [request] at writes
  | elsewhere astray => simp [represents.keeps.part?_eq] at astray

/-- Updating fails exactly if what was read is not current. -/
theorem Represents.update
    {version : String}
    {current : Bool}
    {reading : Nat}
    (represents : lock.Represents session ledger)
    (expressible : record.IsExpressible)
    (isReading : ledger.readings[reading]? = some current)
    (tells : Tells session.registry current version)
    (answers : session.registry.Answers (lock.request (.update record version)) registry
      response) :
    lock.Represents ⟨registry, session.readings⟩ (ledger.perform (.update record reading)).1 ∧
      some (lock.outcome (.written (lock.written response))) =
        (ledger.perform (.update record reading)).2.map (.map lock.kind.kept) := by
  have method := lock.method_update record version
  cases answers with
  | shows gets => simp [gets] at method
  | creates posts => simp [posts] at method
  | misses needs reaches absent refused =>
    have performed : ledger.perform (.update record reading) = (ledger, some .missing) := by
      simp [Ledger.perform, isReading, represents.keeps.eq_none absent]
    rw [performed, written_of_refused refused, if_neg (by decide)]
    exact ⟨represents, rfl⟩
  | @conflicts _ _ edition _ _ writes reaches present late refused =>
    obtain ⟨before, held, -⟩ := represents.keeps.exists_holds present
    have stale : current = false := by
      rw [Bool.eq_false_iff]
      intro isCurrent
      obtain ⟨other, isPresent, same⟩ := tells.current.mp isCurrent
      obtain rfl := Option.some.inj (present.symm.trans isPresent)
      obtain post | foreign := late
      · simp [post] at method
      · exact foreign (isMadeFrom_update_iff.mpr same.symm)
    have performed : ledger.perform (.update record reading) = (ledger, some .conflict) := by
      simp [Ledger.perform, isReading, stale, held]
    rw [performed, written_of_refused refused, if_pos rfl]
    exact ⟨represents, by simp [outcome, LockOutcome.map]⟩
  | @changes old new present makes isFresh =>
    obtain ⟨before, held, holds⟩ := represents.keeps.exists_holds present
    have isCurrent : current = true :=
      tells.current.mpr ⟨old, present, (isMadeFrom_update_iff.mp makes.current).symm⟩
    have performed : ledger.perform (.update record reading) =
        (ledger.renew (some record), some .accepted) := by
      simp [Ledger.perform, isReading, isCurrent, held]
    have holds : lock.Holds new (lock.kind.kept record) := by
      rw [represents.keeps.body_eq makes]
      exact holds_updated version new.version expressible holds
    rw [performed, holds.written (by decide)]
    exact ⟨represents.write isFresh holds, rfl⟩
  | elsewhere astray => simp [represents.keeps.part?_eq] at astray

end Calls

/-- A move does with the object what it does with the lock. -/
theorem Represents.step
    {move : LockMove}
    {result : Option LockOutcome}
    (represents : lock.Represents session ledger)
    (expressible : move.IsExpressible)
    (step : lock.Step session move next result) :
    lock.Represents next (ledger.perform move).1 ∧
      result = (ledger.perform move).2.map (.map lock.kind.kept) := by
  cases step with
  | @called move call registry response calls answers =>
    cases move with
    | get =>
      obtain rfl := Option.some.inj calls
      exact represents.get answers
    | create record =>
      obtain rfl := Option.some.inj calls
      simpa [reply, LockReply.version?] using represents.create expressible answers
    | update record reading =>
      obtain ⟨unread, -⟩ | ⟨version, current, isVersion, isReading, tells⟩ :=
        represents.getElem?_readings reading
      · simp [LockMove.call?, unread] at calls
      · have isCall : call = .update record version := by
          simpa [LockMove.call?, isVersion, eq_comm] using calls
        subst isCall
        simpa [reply, LockReply.version?] using
          represents.update expressible isReading tells answers
    | delete => cases calls
  | @unread record reading unknown =>
    have unread : ledger.readings[reading]? = none := by
      obtain ⟨-, unread⟩ | ⟨version, current, isVersion, -⟩ := represents.getElem?_readings reading
      · exact unread
      · rw [unknown] at isVersion
        cases isVersion
    have performed : ledger.perform (.update record reading) = (ledger, none) := by
      simp [Ledger.perform, unread]
    rw [performed]
    exact ⟨represents, rfl⟩
  | deleted => exact ⟨represents.delete, rfl⟩

/-- What comes of moves with the object is what comes of them with the lock. -/
theorem Represents.outcomes
    {moves : List LockMove}
    {results : List (Option LockOutcome)}
    (represents : lock.Represents session ledger)
    (expressible : ∀ move ∈ moves, move.IsExpressible)
    (runs : lock.Runs session moves results) :
    results = (ledger.outcomes moves).map (Option.map (.map lock.kind.kept)) := by
  induction runs generalizing ledger with
  | done session => rfl
  | step step runs inductionHypothesis =>
    obtain ⟨first, others⟩ := List.forall_mem_cons.mp expressible
    obtain ⟨represents, rfl⟩ := represents.step first step
    rw [Ledger.outcomes, List.map_cons, inductionHypothesis represents others]

/-- Whatever clients do, the server can answer them. -/
theorem exists_runs (lock : LockObject) (session : LockSession) (moves : List LockMove) :
    ∃ results, lock.Runs session moves results := by
  induction moves generalizing session with
  | nil => exact ⟨[], .done session⟩
  | cons move moves inductionHypothesis =>
    obtain ⟨next, result, step⟩ : ∃ next result, lock.Step session move next result := by
      cases calls : move.call? session.readings with
      | some call =>
        obtain ⟨registry, response, answers⟩ := session.registry.exists_answers (lock.request call)
        exact ⟨_, _, .called calls answers⟩
      | none =>
        cases move with
        | get | create => cases calls
        | update record reading =>
          exact ⟨_, _, .unread (Option.map_eq_none_iff.mp calls)⟩
        | delete => exact ⟨_, _, .deleted session⟩
    obtain ⟨results, runs⟩ := inductionHypothesis next
    exact ⟨_, .step step runs⟩

/-- Moves with the object come to what they come to with the lock, and to nothing else. -/
theorem Represents.runs_iff
    {moves : List LockMove}
    {results : List (Option LockOutcome)}
    (represents : lock.Represents session ledger)
    (expressible : ∀ move ∈ moves, move.IsExpressible) :
    lock.Runs session moves results ↔
      results = (ledger.outcomes moves).map (Option.map (.map lock.kind.kept)) := by
  constructor
  · exact represents.outcomes expressible
  · rintro rfl
    obtain ⟨results, runs⟩ := lock.exists_runs session moves
    rw [← represents.outcomes expressible runs]
    exact runs

/-- A lease and a configuration map are one lock. On any servers with optimistic concurrency the
same moves come to the same, which is what they come to with the lock as it should be; only a lease
tells the times of a record to the microsecond. -/
theorem Keeps.same_outcomes
    {configMap lease : LockObject}
    {ofConfigMap ofLease : Registry}
    {held : Option Record}
    {moves : List LockMove}
    (isConfigMap : configMap.kind = .configMaps)
    (isLease : lease.kind = .leases)
    (reachable : ofConfigMap.Reachable)
    (reachable' : ofLease.Reachable)
    (keeps : configMap.Keeps ofConfigMap held)
    (keeps' : lease.Keeps ofLease held)
    (expressible : ∀ move ∈ moves, move.IsExpressible)
    (results : List (Option LockOutcome)) :
    (configMap.Runs ⟨ofConfigMap, []⟩ moves results ↔
      results = Ledger.outcomes ⟨held, []⟩ moves) ∧
    (lease.Runs ⟨ofLease, []⟩ moves results ↔
      results = (Ledger.outcomes ⟨held, []⟩ moves).map (Option.map (.map Record.toMicros))) := by
  have represents : configMap.Represents ⟨ofConfigMap, []⟩ ⟨held, []⟩ :=
    ⟨reachable.sound, keeps, .nil⟩
  have represents' : lease.Represents ⟨ofLease, []⟩ ⟨held, []⟩ :=
    ⟨reachable'.sound, keeps', .nil⟩
  constructor
  · rw [represents.runs_iff expressible, isConfigMap, LockOutcome.map_kept_configMaps,
      Option.map_id, List.map_id]
  · rw [represents'.runs_iff expressible, isLease]
    rfl

/-- A configuration map that nobody used as a lock yet. -/
def unannotatedConfigMap : Edition where
  body := .object [
    ("metadata", .object [
      ("name", .text "csi-leader"),
      ("annotations", .object [("owner", .text "storage")])]),
    ("data", .object [("notes", .text "kept")])]
  version := "41"

/-- A lease that nobody used yet. -/
def unspecifiedLease : Edition where
  body := .object [("metadata", .object [("name", .text "csi-leader")])]
  version := "7"

/-- A record of a holder that got the lock so many nanoseconds after a second. -/
def recordOf (holder : String) (nanos : Nat) : Record :=
  ⟨holder, 15, some ⟨1709287200, nanos⟩, none, -1⟩

/-- Two holders update from one reading, then the object is deleted, and one of them finds it
missing and creates it. -/
def contendedMoves : List LockMove :=
  [.get, .update (recordOf "node-\"a\"\n" 123456789) 0, .update (recordOf "node-b" 0) 0, .get,
    .delete, .update (recordOf "node-b" 0) 1, .create (recordOf "node-b" 5), .get]

/-- What comes of them, up to a precision of the times. -/
def contendedOutcomes (first second : Nat) : List (Option LockOutcome) :=
  [some (.holds .empty), some .accepted, some .conflict,
    some (.holds (recordOf "node-\"a\"\n" first)), none, some .missing, some .accepted,
    some (.holds (recordOf "node-b" second))]

/-- A lock that is kept in a configuration map. -/
def inConfigMap : LockObject := ⟨.configMaps, "kube-system", "csi-leader"⟩

/-- A lock that is kept in a lease. -/
def inLease : LockObject := ⟨.leases, "kube-system", "csi-leader"⟩

/-- A configuration map without the annotation and a lease without a specification begin as one
lock, and stay one lock. -/
theorem same_outcomes_from_unheld :
    Runs inConfigMap ⟨(Registry.vacant inConfigMap.address).write unannotatedConfigMap, []⟩
      contendedMoves (contendedOutcomes 123456789 5) ∧
    Runs inLease ⟨(Registry.vacant inLease.address).write unspecifiedLease, []⟩
      contendedMoves (contendedOutcomes 123456000 0) := by
  have reachable {edition : Edition} (address : Address) (isVersion : edition.version ≠ "") :
      ((Registry.vacant address).write edition).Reachable :=
    .written (.vacant address) ⟨isVersion, nofun⟩
  have year : 0 ≤ (Timestamp.Date.ofDayNumber (1709287200 / 86400)).year ∧
      (Timestamp.Date.ofDayNumber (1709287200 / 86400)).year ≤ 9999 := by decide
  have record (holder : String) (nanos : Nat) (below : nanos < Timestamp.perSecond) :
      (recordOf holder nanos).IsExpressible := by
    refine ⟨?_, nofun⟩
    rintro _ ⟨⟩
    exact ⟨below, year⟩
  have expressible : ∀ move ∈ contendedMoves, move.IsExpressible := by
    simp only [contendedMoves, List.forall_mem_cons, LockMove.IsExpressible, true_and]
    exact ⟨record _ _ (by decide), record _ _ (by decide), record _ _ (by decide),
      record _ _ (by decide), nofun⟩
  have keeps : Keeps inConfigMap
      ((Registry.vacant inConfigMap.address).write unannotatedConfigMap) (some .empty) := by
    refine ⟨rfl, nofun, ?_⟩
    rintro _ ⟨⟩
    exact ⟨_, rfl, holds_empty_of_unannotated rfl rfl rfl rfl⟩
  have keeps' : Keeps inLease
      ((Registry.vacant inLease.address).write unspecifiedLease) (some .empty) := by
    refine ⟨rfl, nofun, ?_⟩
    rintro _ ⟨⟩
    exact ⟨_, rfl, holds_empty_of_unspecified rfl rfl rfl rfl⟩
  have same := Keeps.same_outcomes rfl rfl (reachable _ (by decide)) (reachable _ (by decide))
    keeps keeps' expressible
  exact ⟨(same _).1.mpr (by decide), (same _).2.mpr (by decide)⟩

end LockObject

end VolumeAttacher
