import VolumeAttacher.Proofs.Controller.Passage

/-!
# Listings before work

What a controller that feeds its own caches knows when it hands out a name. Every feed has listed
its objects by then, but not always in the present term: what was listed in an earlier one counts,
so a later term may work on objects that are long gone.
-/

namespace VolumeAttacher

namespace Controller

variable {controller : Controller} {subject : Subject} {name : String}

/-- A worker that asks for a name of a kind is handed one. -/
def Hands (controller : Controller) (subject : Subject) (name : String) : Prop :=
  ∃ term queue, controller.term = some term ∧ term.stage = .working ∧
    (term.queue subject).get = (queue, .key name) ∧ term.busy subject < controller.workers

/-- The end of a term takes nothing else from the controller. -/
theorem step_ended (controller : Controller) :
    (controller.step .ended).1 = controller ∨
      (controller.step .ended).1 = { controller with term := none } := by
  simp only [Controller.step]
  split
  · exact .inr rfl
  · exact .inl rfl

/-- The feeds tell of changes only while a term lasts. -/
def admits (controller : Controller) : ControllerEvent → Bool
  | .changed _ => controller.term.isSome
  | _ => true

end Controller

/-- A controller, and in which of its terms which feed listed its objects. -/
structure History where
  controller : Controller
  listings : List (Nat × Feed)

namespace History

/-- The listing that an event brings in a term. -/
def listing (term : Term) : ControllerEvent → List (Nat × Feed)
  | .changed change => if change.isListing then [(term.number, change.feed)] else []
  | _ => []

/-- The history after an event. -/
def after (history : History) (event : ControllerEvent) : History where
  controller := (history.controller.step event).1
  listings := history.controller.term.toList.flatMap (listing · event) ++ history.listings

/-- The histories of a controller over any number of terms. -/
inductive Reachable (start : Controller) : History → Prop
  | begin : Reachable start ⟨start, []⟩
  | after {history : History} {event : ControllerEvent}
      (reachable : Reachable start history)
      (admitted : history.controller.admits event) :
    Reachable start (history.after event)

/-- The history of a controller that gets events. -/
def run (start : Controller) (events : List ControllerEvent) : History :=
  events.foldl after ⟨start, []⟩

/-- Every event of a list comes when it is admitted. -/
def admitsAll (history : History) : List ControllerEvent → Bool
  | [] => true
  | event :: rest => history.controller.admits event && (history.after event).admitsAll rest

theorem Reachable.foldl
    {start : Controller}
    {history : History}
    {events : List ControllerEvent}
    (reachable : Reachable start history)
    (admitted : history.admitsAll events) :
    Reachable start (events.foldl History.after history) := by
  induction events generalizing history with
  | nil => exact reachable
  | cons event rest ih =>
    simp only [admitsAll, Bool.and_eq_true] at admitted
    exact ih (reachable.after admitted.1) admitted.2

theorem reachable_run
    (start : Controller)
    (events : List ControllerEvent)
    (admitted : admitsAll ⟨start, []⟩ events) :
    Reachable start (run start events) :=
  Reachable.begin.foldl admitted

/-- What a controller holds to be listed was listed in some term, and its work waits for all
feeds. -/
structure Faithful (history : History) : Prop where
  feeding : history.controller.isFeeding = true
  listed : ∀ feed ∈ history.controller.listed, ∃ number, (number, feed) ∈ history.listings
  past : ∀ number feed, (number, feed) ∈ history.listings → number < history.controller.terms
  number : ∀ term, history.controller.term = some term →
    term.number + 1 = history.controller.terms
  working : ∀ term, history.controller.term = some term → term.stage = .working →
    ∀ feed, feed ∈ history.controller.listed

namespace Faithful

variable {history : History}

/-- A feed has listed its objects if the caches are ready. -/
theorem listed_of_isReady
    (faithful : history.Faithful)
    (ready : history.controller.isReady = true)
    (feed : Feed) :
    feed ∈ history.controller.listed := by
  have all : ∀ feed ∈ [Feed.attachments, .volumes, .nodes, .registrations],
      feed ∈ history.controller.listed := by
    simpa [Controller.isReady, faithful.feeding] using ready
  exact all feed (by cases feed <;> simp)

/-- An event that changes nothing but the term keeps a history faithful. -/
theorem inTerm
    {event : ControllerEvent}
    {change : Term → Term × List Delayed}
    (faithful : history.Faithful)
    (step : history.controller.step event = history.controller.inTerm change)
    (silent : ∀ term, listing term event = []) :
    (history.after event).Faithful := by
  have listings : (history.after event).listings = history.listings := by
    simp [History.after, silent]
  have controller : (history.after event).controller =
      { history.controller with
          term := history.controller.term.map fun term => (change term).1 } := by
    rw [← Controller.inTerm_fst, ← step]
    rfl
  have came : ∀ next, (history.after event).controller.term = some next →
      ∃ term delayed, history.controller.term = some term ∧
        history.controller.Passage term event next delayed := by
    intro next present
    have known := present
    rw [controller] at known
    obtain ⟨term, running, -⟩ := Option.map_eq_some_iff.mp known
    obtain ⟨-, ended⟩ | ⟨other, goesOn, passage⟩ := Controller.passage_step event running
    · simp [History.after, ended] at present
    · obtain rfl := Option.some.inj (goesOn.symm.trans present)
      exact ⟨term, _, running, passage⟩
  refine ⟨?_, ?_, ?_, ?_, ?_⟩
  · rw [controller]
    exact faithful.feeding
  · rw [controller, listings]
    exact faithful.listed
  · rw [controller, listings]
    exact faithful.past
  · intro next present
    obtain ⟨term, delayed, running, passage⟩ := came next present
    rw [controller, passage.number_eq]
    exact faithful.number term running
  · intro next present works feed
    obtain ⟨term, delayed, running, passage⟩ := came next present
    rw [controller]
    obtain works | ready := passage.working works
    · exact faithful.working term running works feed
    · exact faithful.listed_of_isReady ready feed

/-- A new term keeps a history faithful. -/
theorem start (faithful : history.Faithful) : (history.after .start).Faithful := by
  have listings : (history.after .start).listings = history.listings := by
    simp [History.after, listing]
  cases running : history.controller.term with
  | some term =>
    have same : (history.after .start).controller = history.controller := by
      simp [History.after, Controller.step, running]
    refine ⟨?_, ?_, ?_, ?_, ?_⟩ <;> rw [same]
    · exact faithful.feeding
    · rw [listings]
      exact faithful.listed
    · rw [listings]
      exact faithful.past
    · exact faithful.number
    · exact faithful.working
  | none =>
    have started : (history.after .start).controller =
        { history.controller with
            term := some history.controller.freshTerm
            terms := history.controller.terms + 1 } := by
      simp [History.after, Controller.step, running]
    refine ⟨?_, ?_, ?_, ?_, ?_⟩ <;> rw [started]
    · exact faithful.feeding
    · rw [listings]
      exact faithful.listed
    · rw [listings]
      exact fun number feed present => Nat.lt_succ_of_lt (faithful.past number feed present)
    · rintro _ ⟨⟩
      rfl
    · rintro _ ⟨⟩ waits
      cases waits

/-- A change of the caches keeps a history faithful. -/
theorem changed
    {change : CacheChange}
    (faithful : history.Faithful)
    (admitted : history.controller.term.isSome) :
    (history.after (.changed change)).Faithful := by
  obtain ⟨term, running⟩ := Option.isSome_iff_exists.mp admitted
  have number := faithful.number term running
  have listings : (history.after (.changed change)).listings =
      listing term (.changed change) ++ history.listings := by
    simp [History.after, running]
  have terms : (history.after (.changed change)).controller.terms = history.controller.terms := by
    simp [History.after, Controller.step, Controller.change, faithful.feeding]
  have next : (history.after (.changed change)).controller.term =
      some (term.addAll (change.tasks history.controller.attacher)) := by
    simp [History.after, Controller.step, Controller.change, faithful.feeding, running]
  have listed : (history.after (.changed change)).controller.listed =
      if change.isListing then
        change.feed :: history.controller.listed.filter (· ≠ change.feed)
      else history.controller.listed := by
    simp [History.after, Controller.step, Controller.change, faithful.feeding]
  refine ⟨?_, ?_, ?_, ?_, ?_⟩
  · simp [History.after, Controller.step, Controller.change, faithful.feeding]
  · intro feed present
    rw [listed] at present
    rw [listings]
    split at present
    · next isListing =>
      obtain rfl | present := List.mem_cons.mp present
      · exact ⟨term.number, by simp [listing, isListing]⟩
      · obtain ⟨number, known⟩ := faithful.listed feed (List.mem_filter.mp present).1
        exact ⟨number, List.mem_append_right _ known⟩
    · obtain ⟨number, known⟩ := faithful.listed feed present
      exact ⟨number, List.mem_append_right _ known⟩
  · intro other feed present
    rw [listings] at present
    rw [terms]
    obtain present | present := List.mem_append.mp present
    · have same : other = term.number := by
        unfold listing at present
        split at present <;> simp_all
      omega
    · exact faithful.past other feed present
  · rw [terms, next]
    rintro _ ⟨⟩
    simpa using number
  · rw [next, listed]
    rintro _ ⟨⟩ works feed
    have known := faithful.working term running (by simpa using works) feed
    split
    · by_cases same : feed = change.feed <;> simp [same, known]
    · exact known

/-- The end of a term keeps a history faithful. -/
theorem ended (faithful : history.Faithful) : (history.after .ended).Faithful := by
  have listings : (history.after .ended).listings = history.listings := by
    simp [History.after, listing]
  obtain same | isOver := history.controller.step_ended
  · have kept : history.after .ended = history := by
      obtain ⟨controller, known⟩ := history
      exact congr (congrArg History.mk same) listings
    rw [kept]
    exact faithful
  · have ended : (history.after .ended).controller = { history.controller with term := none } :=
      isOver
    refine ⟨?_, ?_, ?_, ?_, ?_⟩ <;> rw [ended]
    · exact faithful.feeding
    · rw [listings]
      exact faithful.listed
    · rw [listings]
      exact faithful.past
    · nofun
    · nofun

/-- Every event keeps a history faithful. -/
theorem after
    {event : ControllerEvent}
    (faithful : history.Faithful)
    (admitted : history.controller.admits event) :
    (history.after event).Faithful := by
  cases event with
  | start => exact faithful.start
  | changed change => exact faithful.changed admitted
  | ready => exact faithful.inTerm (Controller.step_ready _) fun _ => rfl
  | resync => exact faithful.inTerm (Controller.step_resync _) fun _ => rfl
  | due number task => exact faithful.inTerm (Controller.step_due _ number task) fun _ => rfl
  | take subject => exact faithful.inTerm (Controller.step_take _ subject) fun _ => rfl
  | answer task reply => exact faithful.inTerm (Controller.step_answer _ task reply) fun _ => rfl
  | cancel => exact faithful.inTerm (Controller.step_cancel _) fun _ => rfl
  | ended => exact faithful.ended

end Faithful

variable {attacher : Attacher} {retryStart retryMaximum : Duration} {workers : Nat}
  {history : History}

theorem Reachable.faithful
    (reachable : Reachable (.idle attacher retryStart retryMaximum workers true) history) :
    history.Faithful := by
  induction reachable with
  | begin => exact ⟨rfl, nofun, nofun, nofun, nofun⟩
  | after _ admitted faithful => exact faithful.after admitted

/-- A name is handed out only after every feed listed its objects, in the term or in an earlier
one, and so in the term itself if it is the first. -/
theorem Reachable.exists_listing_of_hands
    {subject : Subject}
    {name : String}
    (reachable : Reachable (.idle attacher retryStart retryMaximum workers true) history)
    (hands : history.controller.Hands subject name) :
    ∃ term, history.controller.term = some term ∧
      ∀ feed, ∃ number ≤ term.number, (number, feed) ∈ history.listings := by
  have faithful := reachable.faithful
  obtain ⟨term, queue, running, working, handed, free⟩ := hands
  refine ⟨term, running, ?_⟩
  intro feed
  obtain ⟨number, known⟩ := faithful.listed feed (faithful.working term running working feed)
  have past := faithful.past number feed known
  have present := faithful.number term running
  exact ⟨number, by omega, known⟩

/-- A driver that is called for its attachments. -/
def hostPath : Attacher where
  driver := ⟨"hostpath.csi.k8s.io", by decide⟩
  strategy := .driverBacked true
  timeout := .ofSeconds 15

/-- An attachment of the driver. -/
def firstAttachment : VolumeAttachment where
  metadata := { Metadata.empty with name := some "va-1", resourceVersion := some "1" }
  attacher := "hostpath.csi.k8s.io"
  nodeName := "node-1"
  volumeName := some "pv-1"
  attached := false

/-- The controller of the driver. -/
def hostPathController : Controller :=
  .idle hostPath (.ofSeconds 1) (.ofSeconds 300) 10 true

/-- A first term, in which all feeds list their objects. -/
def firstTerm : List ControllerEvent :=
  [.start, .changed (.attachments (.listed [firstAttachment])), .changed (.volumes (.listed [])),
    .changed (.nodes (.listed [])), .changed (.registrations (.listed [])), .ready]

/-- The first term and a second one, in which no feed lists anything. -/
def secondTerm : List ControllerEvent :=
  firstTerm ++ [.cancel, .ended, .start, .ready]

/-- In the first term a name is handed out after every feed listed its objects. -/
theorem listed_in_firstTerm :
    Reachable hostPathController (run hostPathController firstTerm) ∧
      (run hostPathController firstTerm).controller.Hands .attachment "va-1" ∧
      ∃ term, (run hostPathController firstTerm).controller.term = some term ∧
        ∀ feed, ∃ number ≤ term.number,
          (number, feed) ∈ (run hostPathController firstTerm).listings :=
  have reachable := reachable_run hostPathController firstTerm (by decide)
  have hands : (run hostPathController firstTerm).controller.Hands .attachment "va-1" :=
    ⟨_, _, rfl, rfl, rfl, by decide⟩
  ⟨reachable, hands, reachable.exists_listing_of_hands hands⟩

/-- In the second term a name is handed out although no feed listed its objects in it. -/
theorem not_listed_in_secondTerm :
    Reachable hostPathController (run hostPathController secondTerm) ∧
      (run hostPathController secondTerm).controller.Hands .attachment "va-1" ∧
      ∃ term, (run hostPathController secondTerm).controller.term = some term ∧
        ∀ feed, (term.number, feed) ∉ (run hostPathController secondTerm).listings :=
  ⟨reachable_run hostPathController secondTerm (by decide), ⟨_, _, rfl, rfl, rfl, by decide⟩,
    _, rfl, fun feed => by cases feed <;> decide⟩

end History

end VolumeAttacher
