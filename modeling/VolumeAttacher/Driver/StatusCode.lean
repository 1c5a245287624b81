/-!
# Status codes of driver calls

The outcome classes that a driver may answer a call with.
-/

namespace VolumeAttacher

/-- The outcome class of a driver call. -/
inductive StatusCode where
  | ok | cancelled | unknown | invalidArgument | deadlineExceeded | notFound | alreadyExists
  | permissionDenied | resourceExhausted | failedPrecondition | aborted | outOfRange
  | unimplemented | internal | unavailable | dataLoss | unauthenticated
  deriving DecidableEq, Inhabited

namespace StatusCode

/-- The codes in the order of their numbers, from zero. -/
def all : List StatusCode :=
  [.ok, .cancelled, .unknown, .invalidArgument, .deadlineExceeded, .notFound, .alreadyExists,
    .permissionDenied, .resourceExhausted, .failedPrecondition, .aborted, .outOfRange,
    .unimplemented, .internal, .unavailable, .dataLoss, .unauthenticated]

/-- The code of a number; numbers without one mean `unknown`. -/
def ofNumber (number : Int) : StatusCode :=
  if 0 ≤ number then all.getD number.toNat .unknown else .unknown

def name : StatusCode → String
  | .ok => "Ok"
  | .cancelled => "Cancelled"
  | .unknown => "Unknown"
  | .invalidArgument => "InvalidArgument"
  | .deadlineExceeded => "DeadlineExceeded"
  | .notFound => "NotFound"
  | .alreadyExists => "AlreadyExists"
  | .permissionDenied => "PermissionDenied"
  | .resourceExhausted => "ResourceExhausted"
  | .failedPrecondition => "FailedPrecondition"
  | .aborted => "Aborted"
  | .outOfRange => "OutOfRange"
  | .unimplemented => "Unimplemented"
  | .internal => "Internal"
  | .unavailable => "Unavailable"
  | .dataLoss => "DataLoss"
  | .unauthenticated => "Unauthenticated"

/-- The code of a name. -/
def ofName? (text : String) : Option StatusCode :=
  all.find? fun code => code.name = text

/-- The driver may still complete the call, or a later one may succeed. -/
def isTransient (code : StatusCode) : Bool :=
  code ∈ [.cancelled, .unknown, .deadlineExceeded, .resourceExhausted, .aborted, .internal,
    .unavailable]

/-- The driver may not be up yet. -/
def isNotReady (code : StatusCode) : Bool :=
  code ∈ [.unavailable, .deadlineExceeded]

end StatusCode

end VolumeAttacher
