import VolumeAttacher.Driver.Name
import VolumeAttacher.Fault

/-!
# Names of objects and namespaces

The names that the cluster's server accepts: lower-case letters, digits and hyphens of ASCII, with a
letter or digit at both ends, and of limited length.
-/

namespace VolumeAttacher
namespace Label

/-- A lower-case letter or a digit of ASCII. -/
def isEndCharacter (character : Char) : Bool :=
  character.isLower || character.isDigit

/-- A character that may stand inside a name. -/
def isInnerCharacter (dots : Bool) (character : Char) : Bool :=
  isEndCharacter character || character = '-' || (dots && character = '.')

/-- Whether a text is a name of at most `limit` octets, dots being allowed or not. -/
def isValid (limit : Nat) (dots : Bool) (text : String) : Bool :=
  text.utf8ByteSize ≤ limit && text.toList.all (isInnerCharacter dots) &&
    text.toList.head?.any isEndCharacter && text.toList.getLast?.any isEndCharacter

/-- Accept only names that the lock object can have. -/
def checkLockName (name : String) : Except SettingsProblem Unit :=
  if isValid 253 true name then .ok () else .error (.lockName name)

/-- Accept only names that a namespace can have. -/
def checkNamespace (name : String) : Except SettingsProblem Unit :=
  if isValid 63 false name then .ok () else .error (.lockNamespace name)

end Label

end VolumeAttacher
