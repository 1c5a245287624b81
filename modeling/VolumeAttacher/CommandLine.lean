import VolumeAttacher.Log
import VolumeAttacher.Settings

/-!
# The command line

Options stand in any order, each at most once: flags, and options with a value, which follows or is
joined by an equals sign. Some may also be set by variables of the environment, and an option wins
over its variable. The first thing that is wrong decides how the program complains: a value that
follows its option is looked at only when the next option begins or the arguments end.
-/

namespace VolumeAttacher

/-- An option. -/
structure OptionSpec where
  name : String
  takesValue : Bool
  /-- The variable of the environment that may set it. -/
  fallback : Option String

/-- What is wrong with the arguments. -/
inductive UsageProblem where
  | unexpected (argument : String)
  | valueMissing (option : OptionSpec)
  | valueInvalid (option : OptionSpec) (value reason : String)
  /-- The value is none of those that are possible. -/
  | valueImpossible (option : OptionSpec) (value : String)
  | valueUnexpected (option : OptionSpec) (value : String)
  | repeated (option : OptionSpec)

/-- What the arguments ask for. -/
structure Arguments where
  settings : Settings
  connectionTimeout : Duration
  electionIdentity : Option String
  logLevel : LogLevel

/-- What to do. -/
inductive Invocation where
  | run (arguments : Arguments)
  | showVersion
  | showHelp

namespace OptionSpec

/-- What messages call an option. -/
def display (option : OptionSpec) : String :=
  if option.takesValue then
    let placeholder := option.name.map fun character =>
      if character = '-' then '_' else character.toUpper
    "--" ++ option.name ++ " <" ++ placeholder ++ ">"
  else "--" ++ option.name

def valued (name : String) : OptionSpec := ⟨name, true, none⟩

def flag (name : String) : OptionSpec := ⟨name, false, none⟩

/-- All options that set something. -/
def all : List OptionSpec :=
  [valued "kubeconfig", valued "resync", valued "connection-timeout",
   { valued "csi-address" with fallback := some "CSI_ADDRESS" },
   flag "dummy", valued "timeout", valued "retry-interval-start", valued "retry-interval-max",
   flag "leader-election", valued "leader-election-type",
   { valued "leader-election-namespace" with fallback := some "LEADER_ELECTION_NAMESPACE" },
   valued "leader-election-identity", valued "leader-election-lease-duration",
   valued "leader-election-renew-deadline", valued "leader-election-retry-period",
   { valued "http-endpoint" with fallback := some "HTTP_ENDPOINT" },
   { valued "log-level" with fallback := some "LOG_LEVEL" },
   { flag "log-json" with fallback := some "LOG_JSON" }]

/-- The options whose values are durations. -/
def durations : List String :=
  ["resync", "connection-timeout", "timeout", "retry-interval-start", "retry-interval-max",
   "leader-election-lease-duration", "leader-election-renew-deadline",
   "leader-election-retry-period"]

def isHelp (option : OptionSpec) : Bool := option.name = "help"

def isVersion (option : OptionSpec) : Bool := option.name = "version"

/-- The option of a name. -/
def find? (name : String) : Option OptionSpec :=
  (flag "help" :: flag "version" :: all).find? fun option => option.name = name

/-- Accept only values that an option can have. -/
def check (option : OptionSpec) (value : String) : Except UsageProblem Unit :=
  if option.name ∈ durations then
    match Settings.duration value with
    | .ok _ => .ok ()
    | .error fault => .error (.valueInvalid option value fault.message)
  else if option.name = "leader-election-type" then
    match LockKind.ofText value with
    | .ok _ => .ok ()
    | .error problem => .error (.valueInvalid option value (Fault.configuration problem).message)
  else if option.name = "kubeconfig" && value.isEmpty then .error (.valueMissing option)
  else if !option.takesValue && value ≠ "true" && value ≠ "false" then
    if value.isEmpty then .error (.valueMissing option)
    else .error (.valueImpossible option value)
  else .ok ()

end OptionSpec

/-- What is wrong, in words. -/
def UsageProblem.message : UsageProblem → String
  | .unexpected argument => "unexpected argument '" ++ argument ++ "' found"
  | .valueMissing option =>
    "a value is required for '" ++ option.display ++ "' but none was supplied"
  | .valueInvalid option value reason =>
    "invalid value '" ++ value ++ "' for '" ++ option.display ++ "': " ++ reason
  | .valueImpossible option value =>
    "invalid value '" ++ value ++ "' for '" ++ option.display ++ "'"
  | .valueUnexpected option value =>
    "unexpected value '" ++ value ++ "' for '" ++ option.display ++ "' found; no more were expected"
  | .repeated option => "the argument '" ++ option.display ++ "' cannot be used multiple times"

namespace CommandLine

/-- The values that are set, and the option whose value is still to be looked at. -/
structure Reading where
  values : List (String × String)
  pending : Option (OptionSpec × Option String)

/-- How reading the arguments ends. -/
inductive Outcome where
  | values (values : List (String × String))
  | showVersion
  | showHelp

/-- An option is set. -/
def set (reading : Reading) (option : OptionSpec) (value : String) :
    Except UsageProblem Reading := do
  if (reading.values.lookup option.name).isSome then throw (.repeated option)
  option.check value
  return { reading with values := (option.name, value) :: reading.values }

/-- The value of the pending option is looked at. -/
def settle (reading : Reading) : Except UsageProblem Reading :=
  match reading.pending with
  | none => .ok reading
  | some (option, none) => .error (.valueMissing option)
  | some (option, some value) => set { reading with pending := none } option value

/-- The name and the joined value of an argument, after its two hyphens. -/
def splitValue (seen : List Char) : List Char → String × Option String
  | [] => (String.ofList seen.reverse, none)
  | '=' :: rest => (String.ofList seen.reverse, some (String.ofList rest))
  | character :: rest => splitValue (character :: seen) rest

/-- What an argument of one hyphen asks for: only the first letter counts, because each known one
ends the reading. -/
def readShort (reading : Reading) (letter : Char) : Except UsageProblem Outcome :=
  match letter with
  | 'h' => do
    let _ ← settle reading
    return .showHelp
  | 'V' => do
    let _ ← settle reading
    return .showVersion
  | letter => .error (.unexpected ("-" ++ letter.toString))

/-- What an argument of two hyphens does. -/
def readLong (reading : Reading) (text : List Char) : Except UsageProblem (Reading ⊕ Outcome) := do
  let (name, value) := splitValue [] text
  match OptionSpec.find? name with
  | none => throw (.unexpected ("--" ++ name))
  | some option =>
    match option.takesValue, value with
    | false, some value => throw (.valueUnexpected option value)
    | false, none =>
      let reading ← settle reading
      if option.isHelp then return .inr .showHelp
      else if option.isVersion then return .inr .showVersion
      else return .inl (← set reading option "true")
    | true, some value => return .inl (← set (← settle reading) option value)
    | true, none => return .inl { ← settle reading with pending := some (option, none) }

/-- The arguments, one after the other; after two lone hyphens none is expected. -/
def read (reading : Reading) : List String → Except UsageProblem Outcome
  | [] => return .values (← settle reading).values
  | argument :: rest =>
    match argument.toList with
    | ['-', '-'] =>
      match rest with
      | [] => return .values (← settle reading).values
      | next :: _ => .error (.unexpected next)
    | '-' :: '-' :: text => do
      match ← readLong reading text with
      | .inl reading => read reading rest
      | .inr outcome => return outcome
    | '-' :: letter :: _ => readShort reading letter
    | _ =>
      match reading.pending with
      | some (option, none) =>
        read { reading with pending := some (option, some argument) } rest
      | _ => .error (.unexpected argument)

/-- The values that variables set, where no option did. -/
def addVariables (environment : String → Option String) :
    List OptionSpec → List (String × String) → Except UsageProblem (List (String × String))
  | [], values => return values
  | option :: rest, values => do
    match values.lookup option.name, option.fallback.bind environment with
    | none, some value =>
      option.check value
      addVariables environment rest ((option.name, value) :: values)
    | _, _ => addVariables environment rest values

/-- A duration among the values. -/
def durationOf (values : List (String × String)) (name : String) (default : Duration) :
    Duration :=
  match (values.lookup name).map Settings.duration with
  | some (.ok duration) => duration
  | _ => default

/-- A text among the values that is not empty. -/
def nonemptyOf (values : List (String × String)) (name : String) : Option String :=
  match values.lookup name with
  | some "" => none
  | value => value

/-- The settings of the election that values stand for. -/
def electionOf (values : List (String × String)) : ElectionSettings :=
  let timing := Timing.standard
  { enabled := values.lookup "leader-election" = some "true"
    kind := match (values.lookup "leader-election-type").map LockKind.ofText with
      | some (.ok kind) => kind
      | _ => .configMaps
    nameSpace := nonemptyOf values "leader-election-namespace"
    timing :=
      { lease := durationOf values "leader-election-lease-duration" timing.lease
        renew := durationOf values "leader-election-renew-deadline" timing.renew
        retry := durationOf values "leader-election-retry-period" timing.retry
        grace := timing.grace } }

/-- What values stand for. -/
def argumentsOf (values : List (String × String)) : Arguments :=
  let standard := Settings.standard
  { settings :=
      { kubeconfig := values.lookup "kubeconfig"
        resync := durationOf values "resync" standard.resync
        address := (values.lookup "csi-address").getD standard.address
        dummy := values.lookup "dummy" = some "true"
        timeout := durationOf values "timeout" standard.timeout
        retryStart := durationOf values "retry-interval-start" standard.retryStart
        retryMaximum := durationOf values "retry-interval-max" standard.retryMaximum
        election := electionOf values
        endpoint := nonemptyOf values "http-endpoint" }
    connectionTimeout := durationOf values "connection-timeout" ⟨0⟩
    electionIdentity := values.lookup "leader-election-identity"
    logLevel := .ofSetting ((values.lookup "log-level").getD "info") }

/-- What arguments and variables ask for. -/
def parse (arguments : List String) (environment : String → Option String) :
    Except UsageProblem Invocation := do
  match ← read ⟨[], none⟩ arguments with
  | .showVersion => return .showVersion
  | .showHelp => return .showHelp
  | .values values =>
    return .run (argumentsOf (← addVariables environment OptionSpec.all values))

end CommandLine

end VolumeAttacher
