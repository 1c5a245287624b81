/-!
# Dialogues

A computation that asks its surroundings one question at a time and goes on with each answer.
-/

namespace VolumeAttacher

/-- A computation that asks questions. `Answer` gives the type of the answers to each question. -/
inductive Dialogue (Question : Type) (Answer : Question → Type) (α : Type) : Type where
  /-- The computation has a result. -/
  | done (result : α)
  /-- The computation asks a question and goes on with its answer. -/
  | ask (question : Question) (resume : Answer question → Dialogue Question Answer α)

namespace Dialogue

variable {Question : Type} {Answer : Question → Type} {α β : Type}

/-- A dialogue, and another with its result. -/
def bind : Dialogue Question Answer α → (α → Dialogue Question Answer β) →
    Dialogue Question Answer β
  | .done result, next => next result
  | .ask question resume, next => .ask question fun answer => (resume answer).bind next

instance : Monad (Dialogue Question Answer) where
  pure := .done
  bind := .bind

/-- A single question. -/
def question (asked : Question) : Dialogue Question Answer (Answer asked) :=
  .ask asked .done

end Dialogue

end VolumeAttacher
