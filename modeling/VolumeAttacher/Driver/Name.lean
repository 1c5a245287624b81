/-!
# Driver names

A driver names itself; the name is never empty. Objects of the cluster may hold only some
characters in their names, so names of objects are made from a folded form of it.
-/

namespace VolumeAttacher

/-- The name that a driver gives itself. -/
structure DriverName where
  text : String
  nonempty : text ≠ ""
  deriving DecidableEq

namespace DriverName

/-- A driver name, unless the text is empty. -/
def ofText? (text : String) : Option DriverName :=
  if nonempty : text ≠ "" then some ⟨text, nonempty⟩ else none

/-- A character that is kept by folding, in lower case. -/
def foldCharacter (character : Char) : Char :=
  if character.isAlphanum || character = '-' then character.toLower else '-'

/-- A list of characters with an `x` after a final hyphen. -/
def closeHyphen (characters : List Char) : List Char :=
  if characters.getLast? = some '-' then characters ++ ['x'] else characters

/-- A text made usable in the name of an object: lower case, a hyphen for every character that is no
letter, digit or hyphen of ASCII, and an `x` after a final hyphen. -/
def fold (text : String) : String :=
  String.ofList (closeHyphen (text.toList.map foldCharacter))

/-- What the name of a lock object starts with. -/
def lockPrefix : String := "external-attacher-leader-"

/-- The name of the lock object of a driver. -/
def lockName (driver : DriverName) : String :=
  fold (lockPrefix ++ driver.text)

/-- The finalizer that keeps objects of a driver. -/
def finalizer (driver : DriverName) : String :=
  "external-attacher/" ++ fold driver.text

/-- The name that stands for a driver when none is contacted. -/
def dummy : DriverName := ⟨"csi/dummy", by decide⟩

end DriverName

end VolumeAttacher
