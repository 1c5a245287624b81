import VolumeAttacher.Duration.Seconds
import VolumeAttacher.Election.Leadership

/-!
# Metrics

What is counted of a running attacher: whether it leads, how many calls of each operation succeeded
and failed, and how long they took.
-/

namespace VolumeAttacher

/-- How long the calls of an operation took. -/
structure Latency where
  /-- For each bound, how many calls took no longer. -/
  within : List Nat
  total : Binary64
  count : Nat
  deriving DecidableEq

/-- Everything that is counted. Both lists are in the order of their keys. -/
structure Metrics where
  isLeading : Bool
  outcomes : List ((String × String) × Nat)
  latencies : List (String × Latency)
  deriving DecidableEq

namespace Latency

/-- The bounds, in seconds. -/
def bounds : List Binary64 :=
  [(1, 10), (1, 4), (1, 2), (1, 1), (5, 2), (5, 1), (10, 1), (15, 1), (30, 1), (60, 1)].map
    fun bound => .ofQuotient bound.1 bound.2

/-- No calls. -/
def none : Latency := ⟨bounds.map fun _ => 0, .ofNat 0, 0⟩

/-- One more call. -/
def observe (latency : Latency) (seconds : Binary64) : Latency where
  within := List.zipWith (fun bound count => if seconds.le bound then count + 1 else count)
    bounds latency.within
  total := latency.total.add seconds
  count := latency.count + 1

end Latency

namespace Metrics

/-- Nothing happened yet. -/
def empty : Metrics := ⟨false, [], []⟩

/-- Change the value of a key, in the order of the keys. -/
def alter {Key Value : Type} [DecidableEq Key] (before : Key → Key → Bool) (key : Key)
    (fresh : Value) (change : Value → Value) : List (Key × Value) → List (Key × Value)
  | [] => [(key, change fresh)]
  | (first, value) :: rest =>
    if key = first then (first, change value) :: rest
    else if before key first then (key, change fresh) :: (first, value) :: rest
    else (first, value) :: alter before key fresh change rest

/-- The order of the outcomes: by operation, then by result. -/
def isBefore (left right : String × String) : Bool :=
  left.1 < right.1 || left.1 = right.1 && left.2 < right.2

/-- What a result is called. -/
def resultName (success : Bool) : String := if success then "success" else "error"

/-- One more call of an operation. -/
def record (metrics : Metrics) (operation : String) (success : Bool) (elapsed : Duration) :
    Metrics :=
  { metrics with
      outcomes := alter isBefore (operation, resultName success) 0 (· + 1) metrics.outcomes
      latencies :=
        alter (fun left right => left < right) operation .none (·.observe elapsed.inSeconds)
          metrics.latencies }

/-- A replica leads exactly while it holds the lock. -/
def setLeadership (metrics : Metrics) (leadership : Leadership) : Metrics :=
  { metrics with isLeading := leadership = .held }

end Metrics

end VolumeAttacher
