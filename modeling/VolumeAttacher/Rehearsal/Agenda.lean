/-!
# Agendas

What is to happen at which time. Of two things at the same time the one that was entered first comes
first.
-/

namespace VolumeAttacher

/-- Things to happen, in the order of their times. Times are in milliseconds. -/
structure Agenda (α : Type) where
  entries : List (Nat × α)

namespace Agenda

variable {α : Type}

def empty : Agenda α := ⟨[]⟩

/-- Entries with one more, after all of the same time. -/
def insertEntry (time : Nat) (item : α) : List (Nat × α) → List (Nat × α)
  | [] => [(time, item)]
  | first :: rest =>
    if time < first.1 then (time, item) :: first :: rest
    else first :: insertEntry time item rest

/-- One more thing is to happen. -/
def add (agenda : Agenda α) (time : Nat) (item : α) : Agenda α :=
  ⟨insertEntry time item agenda.entries⟩

/-- The next thing, and the rest. -/
def next? (agenda : Agenda α) : Option (Nat × α × Agenda α) :=
  match agenda.entries with
  | [] => none
  | (time, item) :: rest => some (time, item, ⟨rest⟩)

/-- The agenda without some things. -/
def remove (agenda : Agenda α) (test : α → Bool) : Agenda α :=
  ⟨agenda.entries.filter fun entry => !test entry.2⟩

end Agenda

end VolumeAttacher
