import VolumeAttacher.Startup

/-!
# The program

Reads the arguments, and writes what there is to say. There is no transport to a driver or to a
cluster here, so nobody is found to listen; without a driver the program waits until it is ended.
-/

open VolumeAttacher

/-- The time of a line is that of the reader. -/
def writeLine (line : LogLine) : IO Unit :=
  IO.println (line.level.name ++ " " ++ line.target ++ ": " ++ line.message)

/-- The contents of a file that can be read. -/
def contentsOf (path : String) : IO (Option String) := do
  try
    return some (← IO.FS.readFile path)
  catch _ => return none

/-- Wait to be ended. -/
partial def waitForEnd : IO Unit := do
  IO.sleep 1000
  waitForEnd

/-- Start with arguments, and say how it went. -/
def start (arguments : Arguments) (environment : String → Option String) : IO UInt32 := do
  let settings := arguments.settings
  let contents ← match settings.kubeconfig with
    | some path => contentsOf path
    | none => pure none
  let files (path : String) : Option String :=
    if settings.kubeconfig = some path then contents else none
  let (lines, result) := Startup.prepare arguments files false
  let last := match result with
    | .ok _ => []
    | .error fault => [Startup.failure fault]
  let filter := Startup.logFilter arguments environment
  ((lines ++ last).filter filter.keeps).forM writeLine
  match result with
  | .error _ => return 1
  | .ok _ =>
    waitForEnd
    return 0

/-- The values of the variables that the program looks at. -/
def readEnvironment : IO (String → Option String) := do
  let names := "RUST_LOG" :: OptionSpec.all.filterMap OptionSpec.fallback
  let entries ← names.filterMapM fun name => do
    return (← IO.getEnv name).map fun value => (name, value)
  return fun name => entries.lookup name

def main (arguments : List String) : IO UInt32 := do
  let environment ← readEnvironment
  match CommandLine.parse arguments environment with
  | .error problem =>
    IO.eprintln ("error: " ++ problem.message)
    return 2
  | .ok .showVersion =>
    IO.println (Startup.programName ++ " " ++ Startup.version)
    return 0
  | .ok .showHelp =>
    OptionSpec.all.forM fun option => IO.println ("      " ++ option.display)
    return 0
  | .ok (.run arguments) => start arguments environment
