import VolumeAttacher.Fault

/-!
# Driver addresses

The address of a driver is the path of its socket, which may follow `unix://`.
-/

namespace VolumeAttacher
namespace DriverAddress

/-- A text cut at the first occurrence of `://`. -/
def splitScheme (seen : List Char) : List Char → Option (List Char × List Char)
  | ':' :: '/' :: '/' :: rest => some (seen.reverse, rest)
  | [] => none
  | character :: rest => splitScheme (character :: seen) rest

/-- The path of the socket at an address. -/
def path? (address : String) : Except Fault String := do
  let path ← match splitScheme [] address.toList with
    | none => pure address
    | some (scheme, path) =>
      if scheme = ['u', 'n', 'i', 'x'] then pure (String.ofList path)
      else throw (.configuration (.addressScheme (String.ofList scheme) address))
  if path = "" then throw (.configuration .addressEmpty)
  return path

end DriverAddress

end VolumeAttacher
