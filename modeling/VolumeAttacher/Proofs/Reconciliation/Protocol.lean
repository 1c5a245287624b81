import VolumeAttacher.Reconciliation.Attachment

/-!
# Protocols of reconciliations

A protocol says which requests may be made in which state, and how the state changes with each
answer. A reconciliation that follows a protocol keeps to it whatever it is answered, so what the
protocol says holds in every run of it, however the cluster and the driver behave.
-/

namespace VolumeAttacher

/-- Which questions may be asked in a state, and how the state changes with the answers. -/
structure Protocol (Question : Type) (Answer : Question → Type) (State : Type) where
  permits : State → Question → Prop
  advance : State → (question : Question) → Answer question → State

namespace Dialogue

variable {Question : Type} {Answer : Question → Type} {State α β : Type}
  {protocol : Protocol Question Answer State} {state : State}

/-- All questions are permitted, whatever the answers, and the end is as it should be. -/
def Follows (protocol : Protocol Question Answer State) (ends : State → α → Prop) :
    State → Dialogue Question Answer α → Prop
  | state, .done result => ends state result
  | state, .ask question resume =>
    protocol.permits state question ∧
      ∀ answer, (resume answer).Follows protocol ends (protocol.advance state question answer)

@[simp] theorem follows_ask
    {ends : State → α → Prop}
    {question : Question}
    {resume : Answer question → Dialogue Question Answer α} :
    (ask question resume).Follows protocol ends state ↔
      protocol.permits state question ∧
        ∀ answer, (resume answer).Follows protocol ends
          (protocol.advance state question answer) :=
  Iff.rfl

@[simp] theorem follows_bind
    {ends : State → β → Prop}
    {dialogue : Dialogue Question Answer α}
    {next : α → Dialogue Question Answer β} :
    (dialogue.bind next).Follows protocol ends state ↔
      dialogue.Follows protocol (fun state result => (next result).Follows protocol ends state)
        state := by
  induction dialogue generalizing state with
  | done result => exact Iff.rfl
  | ask question resume ih => simp [bind, ih]

theorem Follows.mono
    {ends ends' : State → α → Prop}
    {dialogue : Dialogue Question Answer α}
    (follows : dialogue.Follows protocol ends state)
    (weaker : ∀ state result, ends state result → ends' state result) :
    dialogue.Follows protocol ends' state := by
  induction dialogue generalizing state with
  | done result => exact weaker state result follows
  | ask question resume ih => exact ⟨follows.1, fun answer => ih answer (follows.2 answer)⟩

end Dialogue

namespace Reconciliation

variable {State α β : Type} {protocol : Protocol Request Request.Answer State} {state : State}
  {ends : State → Except Fault α → Prop}

/-- All requests are permitted, whatever the answers, and the end is as it should be. -/
def Follows
    (protocol : Protocol Request Request.Answer State)
    (ends : State → Except Fault α → Prop)
    (state : State)
    (reconciliation : Reconciliation α) : Prop :=
  Dialogue.Follows protocol ends state reconciliation.run

@[simp] theorem follows_ofExcept {result : Except Fault α} :
    Follows protocol ends state (ofExcept result) ↔ ends state result :=
  Iff.rfl

@[simp] theorem follows_bind
    {ends : State → Except Fault β → Prop}
    {reconciliation : Reconciliation α}
    {next : α → Reconciliation β} :
    Follows protocol ends state (reconciliation >>= next) ↔
      Follows protocol (fun state result =>
        match result with
        | .ok value => Follows protocol ends state (next value)
        | .error fault => ends state (.error fault)) state reconciliation := by
  refine Dialogue.follows_bind.trans (iff_of_eq ?_)
  unfold Follows
  congr 1
  funext state result
  cases result <;> rfl

/-- A reconciliation after another one, which ends in a way that lets it go on. -/
theorem Follows.bind
    {between : State → Except Fault α → Prop}
    {ends : State → Except Fault β → Prop}
    {reconciliation : Reconciliation α}
    {next : α → Reconciliation β}
    (first : Follows protocol between state reconciliation)
    (goesOn : ∀ state value, between state (.ok value) → Follows protocol ends state (next value))
    (fails : ∀ state fault, between state (.error fault) → ends state (.error fault)) :
    Follows protocol ends state (reconciliation >>= next) := by
  rw [follows_bind]
  apply Dialogue.Follows.mono first
  intro state result ended
  cases result with
  | ok value => exact goesOn state value ended
  | error fault => exact fails state fault ended

/-- A request that is permitted, and what comes after its answer. -/
theorem Follows.ask
    {request : Request}
    {next : request.Answer → Reconciliation α}
    (permitted : protocol.permits state request)
    (goesOn : ∀ answer, Follows protocol ends (protocol.advance state request answer)
      (next answer)) :
    Follows protocol ends state (request.attempt >>= next) :=
  ⟨permitted, goesOn⟩

/-- A result, and what comes after it unless it is a fault. -/
theorem Follows.check
    {ends : State → Except Fault β → Prop}
    {result : Except Fault α}
    {next : α → Reconciliation β}
    (goesOn : ∀ value, result = .ok value → Follows protocol ends state (next value))
    (fails : ∀ fault, result = .error fault → ends state (.error fault)) :
    Follows protocol ends state (ofExcept result >>= next) := by
  rw [follows_bind, follows_ofExcept]
  cases result with
  | ok value => exact goesOn value rfl
  | error fault => exact fails fault rfl

end Reconciliation

end VolumeAttacher
