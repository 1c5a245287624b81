/-!
# Leadership

Where a candidate stands in an election.
-/

namespace VolumeAttacher

/-- Where a candidate stands. -/
inductive Leadership where
  /-- It takes no part, or no longer. -/
  | unheld
  /-- It tries to get the lock. -/
  | acquiring
  /-- It holds the lock. -/
  | held
  /-- It gave the lock up or lost it. -/
  | released
  deriving DecidableEq, Inhabited

namespace Leadership

def name : Leadership → String
  | .unheld => "unheld"
  | .acquiring => "acquiring"
  | .held => "held"
  | .released => "released"

end Leadership

end VolumeAttacher
