import VolumeAttacher.Json

/-!
# Merge patches

The merge of RFC 7386: a patch that is an object changes the members it names, removes those it sets
to null and leaves the others; any other patch replaces the value.
-/

namespace VolumeAttacher
namespace Json

/-- The members of a value; a value that is no object has none. -/
def membersOf : Json → List (String × Json)
  | .object members => members
  | _ => []

/-- Members without those of a name. -/
def eraseMember (name : String) (members : List (String × Json)) : List (String × Json) :=
  members.filter (·.1 ≠ name)

/-- Members with a name set to a value, in place if it is there already. -/
def setMember (name : String) (value : Json) :
    List (String × Json) → List (String × Json)
  | [] => [(name, value)]
  | (key, old) :: rest =>
    if key = name then (name, value) :: eraseMember name rest
    else (key, old) :: setMember name value rest

mutual

/-- A value after a patch. -/
def mergePatch (target : Json) : Json → Json
  | .object changes => .object (mergeMembers target.membersOf changes)
  | patch => patch

/-- The members of an object after the changes of a patch. -/
def mergeMembers (members : List (String × Json)) :
    List (String × Json) → List (String × Json)
  | [] => members
  | (name, change) :: rest =>
    let changed := match change with
      | .null => eraseMember name members
      | change => setMember name (mergePatch ((lookup name members).getD .null) change) members
    mergeMembers changed rest

end

end Json

end VolumeAttacher
